import Std.Data.HashMap
import RecordFilter.Grammar.Expression
import RecordFilter.Validity

namespace RecordFilter

open Text

/-!
# A cache of parsed filters

* `FilterCache` — parsed filters by their text, at most as many as its capacity.
* `FilterCache.get` — the filter of a text, parsed or remembered.
* `FilterCache.check` — evaluates a filter text on a record, parsing it through the cache.

A filter that does not fit into a full cache empties it first. Blank texts and texts that cannot be parsed
are not remembered.
-/

/-- Parsed filters by their text. -/
structure FilterCache where
  /-- How many filters are kept at most. -/
  capacity : Nat
  /-- The filters by their text. -/
  entries : Std.HashMap String Criteria

namespace FilterCache

/-- How many filters are kept unless another number is asked for. -/
def defaultCapacity : Nat := 4096

/-- An empty cache. At least one filter is kept. -/
def withCapacity (capacity : Nat) : FilterCache :=
  ⟨max capacity 1, ∅⟩

/-- The number of filters that are kept. -/
def size (cache : FilterCache) : Nat :=
  cache.entries.size

/-- Forgets all filters. -/
def clear (cache : FilterCache) : FilterCache :=
  { cache with entries := ∅ }

/-- Changes the capacity. A cache that holds more filters than that is emptied. -/
def setCapacity (cache : FilterCache) (capacity : Nat) : FilterCache :=
  let changed := { cache with capacity := max capacity 1 }
  if changed.capacity < changed.size then changed.clear else changed

/-- Remembers a filter. A new filter empties a full cache first. -/
def insert (cache : FilterCache) (text : String) (criteria : Criteria) : FilterCache :=
  let room := if cache.capacity ≤ cache.size && !cache.entries.contains text then cache.clear else cache
  { room with entries := room.entries.insert text criteria }

/-- The filter of a text and the cache afterwards. -/
def get (cache : FilterCache) (text : String) :
    Except FilterError (Option Criteria) × FilterCache :=
  if allBlank text.toList then (.ok none, cache)
  else
    match cache.entries[text]? with
    | some criteria => (.ok (some criteria), cache)
    | none =>
      match Criteria.parse .standard text with
      | .ok (some criteria) => (.ok (some criteria), cache.insert text criteria)
      | other => (other, cache)

/-- Whether a record satisfies a filter text, and the cache afterwards. Every record satisfies a blank
    text. -/
def check (cache : FilterCache) (setting : Setting) (type : RecordType) (text : String)
    (record : Record) : Except FilterError Bool × FilterCache :=
  match cache.get text with
  | (.ok none, after) => (.ok true, after)
  | (.ok (some criteria), after) => (criteria.check setting type record, after)
  | (.error fault, after) => (.error fault, after)

end FilterCache

end RecordFilter
