import RecordFilter.Culture.Basic
import RecordFilter.Proofs.Calendar.Reading
import RecordFilter.Proofs.Calendar.Written

namespace RecordFilter

open Text DateTime

/-!
# ISO 8601 date-times read back

* `DateTime.ofIso?_isoText` — the ISO 8601 text of a date-time reads back as the date-time.
* `Culture.dateTime?_isoText` — also by the culture of filter texts, as a format of it allows a `T`
  between date and time.
-/

namespace DatePattern

/-! ### Time stamps -/

/-- The blanks between its parts apart, the lenient form of ISO 8601 is the pattern of a written
    date-time. -/
theorem filter_iso : iso.filter (· ≠ .blanks) = timestamp (.literal 'T') := by
  decide

/-- A pattern that allows only blanks between date and time does not read a date-time with a `T`
    between them. -/
theorem read?_timestamp_blanks (moment : DateTime) :
    (timestamp .blanks).read? (moment.text 'T') = none := by
  simp only [DatePattern.read?, timestamp, DateTime.text, List.append_assoc, List.cons_append,
    readFrom?_date]
  rfl

end DatePattern

/-- A written date-time with a `T` between date and time has no blanks. -/
theorem DateTime.not_isBlank_of_mem_text {moment : DateTime} {c : Char} (h : c ∈ moment.text 'T') :
    isBlank c = false := by
  have hmarks : ∀ mark ∈ marks 'T', isBlank mark = false := by decide
  rcases mem_text h with hdigit | hmark
  · exact not_isBlank_of_isPlain (isPlain_of_isDigit hdigit)
  · exact hmarks c hmark

/-- The text of a date-time with a `T` between date and time reads back by the pattern for it. -/
theorem DateTime.dateTime?_timestamp (moment : DateTime) :
    ((DatePattern.timestamp (.literal 'T')).read? (moment.text 'T')).bind DateParts.dateTime?
      = some moment := by
  obtain ⟨nanosecond, hnanosecond, hread⟩ := DatePattern.read?_timestamp
    (fun parts number rest => DatePattern.readItem?_literal 'T' parts (padded 2 number ++ rest))
    moment
  rw [hread, Option.bind_some, DatePattern.dateTime?_writtenParts hnanosecond]

/-- **The ISO 8601 text of a date-time reads back as the date-time.** -/
theorem DateTime.ofIso?_isoText (moment : DateTime) :
    ofIso? moment.isoText.toList = some moment := by
  rw [isoText, String.toList_ofList, ofIso?, DatePattern.read?,
    DatePattern.readFrom?_filter_blanks _ _ fun c hc => not_isBlank_of_mem_text hc,
    DatePattern.filter_iso]
  exact moment.dateTime?_timestamp

/-- **The culture of filter texts reads the ISO 8601 text of a date-time as the date-time.** -/
theorem Culture.dateTime?_isoText (moment : DateTime) :
    standard.dateTime? moment.isoText.toList = some moment := by
  have hspace : dateTimeByFormat? (moment.text 'T') "%Y-%m-%d %H:%M:%S%.f" = none := by
    rw [dateTimeByFormat?, show DatePattern.ofFormat "%Y-%m-%d %H:%M:%S%.f".toList
      = DatePattern.timestamp .blanks by decide +kernel, DatePattern.read?_timestamp_blanks]
    rfl
  have hformat : dateTimeByFormat? (moment.text 'T') "%Y-%m-%dT%H:%M:%S%.f" = some moment := by
    obtain ⟨parts, hread, hmoment⟩ := Option.bind_eq_some_iff.1 moment.dateTime?_timestamp
    rw [dateTimeByFormat?, show DatePattern.ofFormat "%Y-%m-%dT%H:%M:%S%.f".toList
      = DatePattern.timestamp (.literal 'T') by decide +kernel, hread, Option.bind_some, hmoment]
    rfl
  -- It is no time stamp with an offset, and the first format wants a space.
  rw [isoText, String.toList_ofList]
  unfold dateTime?
  simp only [trim_text, ofRfc3339?_text (show 'T' ∈ ['T', 't', ' '] by decide)]
  rw [standard, List.findSome?_cons, hspace, List.findSome?_cons, hformat]
  rfl

end RecordFilter
