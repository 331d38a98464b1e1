import RecordFilter.Text.Pieces

namespace RecordFilter

/-!
# Operators of the filter language

* `ComparisonOperator` — `==`, `<>`, `>`, `<`, `<=`, `>=` and `Like`.
* `TextFunction` — tests of a text against a shorter one.
* `PropertyFunction` — the functions that a filter applies to a property.
* `DateInterval` — spans of days relative to the current one.

Each has the word that filter texts use for it, and the look-up of that word.
-/

/-- How a property is compared with a value. -/
inductive ComparisonOperator where
  | equal
  | notEqual
  | greater
  | less
  | lessOrEqual
  | greaterOrEqual
  /-- A text pattern with `%` as a wildcard at its ends. -/
  | like
deriving DecidableEq

namespace ComparisonOperator

/-- All operators. -/
def all : List ComparisonOperator :=
  [.equal, .notEqual, .greater, .less, .lessOrEqual, .greaterOrEqual, .like]

/-- The symbol of an operator. -/
def symbol : ComparisonOperator → String
  | .equal => "=="
  | .notEqual => "<>"
  | .greater => ">"
  | .less => "<"
  | .lessOrEqual => "<="
  | .greaterOrEqual => ">="
  | .like => "Like"

/-- The operator with the given symbol. -/
def ofSymbol? (symbol : String) : Option ComparisonOperator :=
  all.find? fun operator => operator.symbol = symbol

end ComparisonOperator

/-- A test of a text against a shorter one. -/
inductive TextFunction where
  | startsWith
  | endsWith
  | contains
deriving DecidableEq

namespace TextFunction

/-- The name of a function. -/
def name : TextFunction → String
  | .startsWith => "StartsWith"
  | .endsWith => "EndsWith"
  | .contains => "Contains"

/-- Whether a text begins with, ends with or contains another one. -/
def holds : TextFunction → String → String → Bool
  | .startsWith, text, needle => needle.toList.isPrefixOf text.toList
  | .endsWith, text, needle => needle.toList.isSuffixOf text.toList
  | .contains, text, needle => Text.occursIn needle.toList text.toList

end TextFunction

/-- A function that a filter applies to a property. -/
inductive PropertyFunction where
  /-- A text test, which takes an argument. -/
  | text (function : TextFunction)
  /-- Null or the empty text; takes no argument. -/
  | isNullOrEmpty
deriving DecidableEq

namespace PropertyFunction

/-- All functions. -/
def all : List PropertyFunction :=
  [.text .startsWith, .text .endsWith, .text .contains, .isNullOrEmpty]

/-- The name of a function. -/
def name : PropertyFunction → String
  | .text function => function.name
  | .isNullOrEmpty => "IsNullOrEmpty"

/-- The function with the given name. -/
def ofName? (name : String) : Option PropertyFunction :=
  all.find? fun function => function.name = name

end PropertyFunction

/-- A span of days relative to the current day. Weeks start on Monday. -/
inductive DateInterval where
  /-- From the first day of next year on. -/
  | beyondThisYear
  /-- From the first day of next month to the end of the year. -/
  | laterThisYear
  /-- After the end of next week to the end of the month. -/
  | laterThisMonth
  | nextWeek
  /-- From the day after tomorrow to the end of the week. -/
  | laterThisWeek
  | tomorrow
  | today
  | yesterday
  /-- From the first day of the week to yesterday. -/
  | earlierThisWeek
  | lastWeek
  /-- From the first day of the month to the beginning of last week. -/
  | earlierThisMonth
  /-- From the first day of the year to the beginning of the month. -/
  | earlierThisYear
  /-- Before the first day of the year. -/
  | priorThisYear
deriving DecidableEq

namespace DateInterval

/-- All intervals, from the future to the past. -/
def all : List DateInterval :=
  [.beyondThisYear, .laterThisYear, .laterThisMonth, .nextWeek, .laterThisWeek, .tomorrow, .today,
   .yesterday, .earlierThisWeek, .lastWeek, .earlierThisMonth, .earlierThisYear, .priorThisYear]

/-- The name of an interval. -/
def name : DateInterval → String
  | .beyondThisYear => "IntervalBeyondThisYear"
  | .laterThisYear => "IntervalLaterThisYear"
  | .laterThisMonth => "IntervalLaterThisMonth"
  | .nextWeek => "IntervalNextWeek"
  | .laterThisWeek => "IntervalLaterThisWeek"
  | .tomorrow => "IntervalTomorrow"
  | .today => "IntervalToday"
  | .yesterday => "IntervalYesterday"
  | .earlierThisWeek => "IntervalEarlierThisWeek"
  | .lastWeek => "IntervalLastWeek"
  | .earlierThisMonth => "IntervalEarlierThisMonth"
  | .earlierThisYear => "IntervalEarlierThisYear"
  | .priorThisYear => "IntervalPriorThisYear"

/-- The interval with the given name. -/
def ofName? (name : String) : Option DateInterval :=
  all.find? fun interval => interval.name = name

end DateInterval

end RecordFilter
