import RecordFilter.Proofs.Criteria.Produced

namespace RecordFilter

/-!
# Canonical texts in other cultures

Canonical texts are the same for every culture. Their numbers have a point, which separates a fraction
in every culture; their dates are in one form, which a culture reads by its own formats only.

* `Value.reread?_eq_some_self_iff` — a culture reads every value back but for date-times.
* `Criteria.parse_text_iff` — it reads the canonical text of a filter back exactly if it reads the
  date-times in the filter back.
-/

/-- A culture that reads numbers reads every value back that is no date-time, and a date-time if it
    reads the text of it back. -/
theorem Value.reread?_eq_some_self_iff {culture : Culture} (h : culture.ReadsNumbers)
    {value : Value} :
    value.reread? culture = some value
      ↔ ∀ moment, value = .dateTime moment → culture.ReadsMoment moment := by
  rw [← readsBack_iff]
  constructor
  · rintro hread moment rfl
    have hzero := hread 0
    simp only [ofToken, chars, moment.dateBody_text] at hzero
    cases hfound : culture.dateTime? (moment.text ' ') with
    | none =>
      rw [hfound] at hzero
      cases hzero
    | some found =>
      rw [hfound] at hzero
      cases hzero
      exact hfound
  · exact fun hmoment position => ofToken_chars h hmoment position

namespace Criteria

/-- **A culture reads the canonical text of a filter back exactly if it reads the date-times in the
    filter back**, if the filter was read from a text and the decimal separator is a point or a comma.
    So it does whatever the filter if the canonical form is the first of its date formats. -/
theorem parse_text_iff {culture : Culture}
    (hseparator : culture.decimalSeparator = '.' ∨ culture.decimalSeparator = ',') {text : String}
    {criteria : Criteria} (h : parse culture text = .ok (some criteria)) :
    (parse culture criteria.text = .ok (some criteria)
        ↔ ∀ moment, .dateTime moment ∈ criteria.values → culture.ReadsMoment moment)
      ∧ (culture.dateFormats.head? = some "%Y-%m-%d %H:%M:%S%.f" →
        parse culture criteria.text = .ok (some criteria)) := by
  have hnumbers := Culture.readsNumbers_of_separator hseparator
  have hiff : parse culture criteria.text = .ok (some criteria)
      ↔ ∀ moment, .dateTime moment ∈ criteria.values → culture.ReadsMoment moment := by
    rw [parse_text_eq_ok_self_iff (wellFormed_of_parse h)]
    constructor
    · intro hread moment hmem
      exact (Value.reread?_eq_some_self_iff hnumbers).1 (hread _ hmem) moment rfl
    · intro hread value hmem
      refine (Value.reread?_eq_some_self_iff hnumbers).2 ?_
      rintro moment rfl
      exact hread moment hmem
  refine ⟨hiff, fun hfirst => hiff.2 fun moment _ => ?_⟩
  exact Culture.readsMoment_of_head? hfirst moment

/-! ### Cultures with formats of their own -/

/-- A culture with a comma, and with a short date before the canonical form. -/
def commaCulture : Culture :=
  { Culture.standard with
    decimalSeparator := ','
    dateFormats := ["%d.%m.%Y", "%Y-%m-%d %H:%M:%S%.f"] }

/-- A filter with a double and the first moment of a leap day. -/
def priceFilter : Criteria :=
  .and (.property "Price" (.compare .greater (.float (.ofInt 1))))
    (.not (.property "Ordered" (.oneOf
      [.dateTime (.midnight ⟨2020, 2, 29, Date.valid_leapDay2020⟩), .int 2, .string "1,0"])))

theorem parse_text_iff_commaCulture :
    parse commaCulture "([Price > 1,0] AND not ([Ordered in (#29.02.2020#, 2, '1,0')]))"
        = .ok (some priceFilter)
      ∧ priceFilter.text = "([Price > 1.0] AND not ([Ordered in (#2020-02-29 00:00:00#, 2, '1,0')]))"
      ∧ parse commaCulture priceFilter.text = .ok (some priceFilter) := by
  have hread : parse commaCulture
      "([Price > 1,0] AND not ([Ordered in (#29.02.2020#, 2, '1,0')]))"
        = .ok (some priceFilter) :=
    eq_ok_of_toOption (by decide +kernel)
  have hmoment : commaCulture.ReadsMoment (.midnight ⟨2020, 2, 29, by decide⟩) := by
    unfold Culture.ReadsMoment
    decide +kernel
  refine ⟨hread, by decide +kernel, (parse_text_iff (.inr rfl) hread).1.2 fun moment hmem => ?_⟩
  have hvalues : priceFilter.values
      = [.float (.ofInt 1), .dateTime (.midnight ⟨2020, 2, 29, by decide⟩), .int 2,
        .string "1,0"] := rfl
  simp only [hvalues, List.mem_cons, reduceCtorEq, Value.dateTime.injEq, List.not_mem_nil,
    or_false, false_or] at hmem
  rw [hmem]
  exact hmoment

/-- A culture with the one date format. -/
def formatCulture (format : String) : Culture :=
  { Culture.standard with dateFormats := [format] }

/-- A filter for the first moment of a day. -/
def dayFilter (date : Date) : Criteria :=
  .property "Ordered" (.compare .equal (.dateTime (.midnight date)))

/-- A culture that reads dates without a time does not read the text that it is written as, and one
    that reads the day before the month reads another day. -/
theorem parse_text_changes_dates :
    (parse (formatCulture "%Y-%m-%d") "[Ordered == #2024-06-12#]"
        = .ok (some (dayFilter ⟨2024, 6, 12, by decide⟩))
      ∧ parse (formatCulture "%Y-%m-%d") (dayFilter ⟨2024, 6, 12, by decide⟩).text
        ≠ .ok (some (dayFilter ⟨2024, 6, 12, by decide⟩)))
      ∧ parse (formatCulture "%Y-%d-%m %H:%M:%S") "[Ordered == #2024-12-06 00:00:00#]"
        = .ok (some (dayFilter ⟨2024, 6, 12, by decide⟩))
      ∧ parse (formatCulture "%Y-%d-%m %H:%M:%S") (dayFilter ⟨2024, 6, 12, by decide⟩).text
        = .ok (some (dayFilter ⟨2024, 12, 6, by decide⟩)) := by
  refine ⟨⟨eq_ok_of_toOption (by decide +kernel), fun h => ?_⟩,
    eq_ok_of_toOption (by decide +kernel), eq_ok_of_toOption (by decide +kernel)⟩
  have hnone : (parse (formatCulture "%Y-%m-%d")
      (dayFilter ⟨2024, 6, 12, by decide⟩).text).toOption = none := by
    decide +kernel
  rw [h] at hnone
  cases hnone

end Criteria

end RecordFilter
