import TanDialog.Passport.Session
import TanDialog.Proofs.Property.Projection
import TanDialog.Proofs.Text.Decimal

/-!
# Dates as challenge parameters

A date is written for the TAN generator by dropping its hyphens. What counts as a date is settled by
the widths of its three fields and by reading them as numerals, and a numeral may be led by a plus
sign. So the dates that are written are exactly the texts of four, two and two digits with a month
and a day of a month among them, and besides those where a plus sign stands in for the first digit
of a field (`date_written_iff`); the plus sign is shown with the digits.
-/

namespace TanDialog.Challenge

open Numeral

/-! ### Fields -/

/-- A numeral of a given width. A plus sign may lead it, and is counted. -/
structure IsField (width : Nat) (cs : List Char) : Prop where
  length_eq : cs.length = width
  ne_nil : unsignedPart cs ≠ []
  isDigit : ∀ c ∈ unsignedPart cs, c.isDigit = true

/-- The number that a field denotes. -/
def fieldValue (cs : List Char) : Nat := Nat.ofDigitChars 10 (unsignedPart cs) 0

variable {width : Nat} {cs : List Char}

theorem plus_notMem (h : ∀ c ∈ cs, c.isDigit = true) : '+' ∉ cs :=
  fun hmem => absurd (h '+' hmem) (by decide)

theorem IsField.hyphen_notMem (h : IsField width cs) : '-' ∉ cs := by
  have hdigits := h.isDigit
  unfold unsignedPart at hdigits
  split at hdigits
  case h_1 ds =>
    rw [List.mem_cons, not_or]
    exact ⟨by decide, fun hmem => absurd (hdigits '-' hmem) (by decide)⟩
  case h_2 => exact fun hmem => absurd (hdigits '-' hmem) (by decide)

/-- Without a plus sign a field is a run of digits. -/
theorem isField_iff_of_plus_notMem (hwidth : 0 < width) (h : '+' ∉ cs) :
    IsField width cs ↔ cs.length = width ∧ ∀ c ∈ cs, c.isDigit = true := by
  have hself := unsignedPart_eq_self h
  constructor
  · intro hfield
    exact ⟨hfield.length_eq, hself ▸ hfield.isDigit⟩
  · rintro ⟨hlength, hdigits⟩
    refine ⟨hlength, ?_, hself.symm ▸ hdigits⟩
    rw [hself]
    rintro rfl
    exact absurd hlength (Nat.ne_of_lt hwidth)

/-- A field reads as a number within bounds that a numeral may have. -/
theorem isField_iff {low high : Nat} (hhigh : high < bound16) :
    (cs.length = width ∧ (decimal? bound16 cs).any fun n => low ≤ n && n ≤ high) ↔
      IsField width cs ∧ low ≤ fieldValue cs ∧ fieldValue cs ≤ high := by
  simp only [Option.any_eq_true, decimal?_eq_some_iff, Bool.and_eq_true, decide_eq_true_eq]
  constructor
  · rintro ⟨hlength, n, ⟨hne, hdigits, rfl, -⟩, hbounds⟩
    exact ⟨⟨hlength, hne, hdigits⟩, hbounds⟩
  · rintro ⟨⟨hlength, hne, hdigits⟩, hbounds⟩
    exact ⟨hlength, _, ⟨hne, hdigits, rfl, Nat.lt_of_le_of_lt hbounds.2 hhigh⟩, hbounds⟩

theorem IsField.fieldValue_lt (h : IsField width cs) : fieldValue cs < 10 ^ width := by
  rw [← h.length_eq]
  exact decimal?_lt (decimal?_eq_some_iff.mpr ⟨h.ne_nil, h.isDigit, rfl, Nat.lt_succ_self _⟩)

/-! ### Texts of dates -/

/-- Fields for a year, a month and a day, put together by hyphens. -/
structure IsDateOf (value year month day : List Char) : Prop where
  text : value = year ++ '-' :: (month ++ '-' :: day)
  year_field : IsField 4 year
  month_field : IsField 2 month
  day_field : IsField 2 day
  month_bounds : 1 ≤ fieldValue month ∧ fieldValue month ≤ 12
  day_bounds : 1 ≤ fieldValue day ∧ fieldValue day ≤ 31

/-- The same of digits only. -/
structure IsPlainDateOf (value year month day : List Char) : Prop where
  text : value = year ++ '-' :: (month ++ '-' :: day)
  lengths : year.length = 4 ∧ month.length = 2 ∧ day.length = 2
  isDigit : ∀ c ∈ year ++ month ++ day, c.isDigit = true
  month_bounds : 1 ≤ Nat.ofDigitChars 10 month 0 ∧ Nat.ofDigitChars 10 month 0 ≤ 12
  day_bounds : 1 ≤ Nat.ofDigitChars 10 day 0 ∧ Nat.ofDigitChars 10 day 0 ≤ 31

variable {value year month day : List Char}

theorem splitOn_eq_three_iff {mark : Char} :
    value.splitOn mark = [year, month, day] ↔
      value = year ++ mark :: (month ++ mark :: day) ∧ mark ∉ year ∧ mark ∉ month ∧ mark ∉ day := by
  have htext : [mark].intercalate [year, month, day] = year ++ mark :: (month ++ mark :: day) := by
    simp [List.intercalate]
  constructor
  · intro hsplit
    have hpiece {piece : List Char} (h : piece ∈ [year, month, day]) : mark ∉ piece :=
      notMem_of_mem_splitOn (hsplit ▸ h)
    refine ⟨?_, hpiece (by simp), hpiece (by simp), hpiece (by simp)⟩
    rw [← htext, ← hsplit, List.intercalate_splitOn]
  · rintro ⟨rfl, hyear, hmonth, hday⟩
    rw [← htext]
    exact List.splitOn_intercalate mark (by simp [hyear, hmonth, hday]) (by simp)

/-- Plain dates are the dates without a plus sign. -/
theorem isPlainDateOf_iff :
    IsPlainDateOf value year month day ↔ IsDateOf value year month day ∧ '+' ∉ value := by
  have hplus (hvalue : value = year ++ '-' :: (month ++ '-' :: day)) :
      '+' ∉ value ↔ '+' ∉ year ∧ '+' ∉ month ∧ '+' ∉ day := by
    simp [hvalue]
  constructor
  · rintro ⟨htext, ⟨hy, hm, hd⟩, hdigits, hmonth, hday⟩
    simp only [List.forall_mem_append] at hdigits
    obtain ⟨⟨hydigits, hmdigits⟩, hddigits⟩ := hdigits
    have hyplus := plus_notMem hydigits
    have hmplus := plus_notMem hmdigits
    have hdplus := plus_notMem hddigits
    refine ⟨⟨htext, ?_, ?_, ?_, ?_, ?_⟩, (hplus htext).mpr ⟨hyplus, hmplus, hdplus⟩⟩
    · exact (isField_iff_of_plus_notMem (by decide) hyplus).mpr ⟨hy, hydigits⟩
    · exact (isField_iff_of_plus_notMem (by decide) hmplus).mpr ⟨hm, hmdigits⟩
    · exact (isField_iff_of_plus_notMem (by decide) hdplus).mpr ⟨hd, hddigits⟩
    · rwa [fieldValue, unsignedPart_eq_self hmplus]
    · rwa [fieldValue, unsignedPart_eq_self hdplus]
  · rintro ⟨h, hvalue⟩
    obtain ⟨hyplus, hmplus, hdplus⟩ := (hplus h.text).mp hvalue
    obtain ⟨hy, hydigits⟩ := (isField_iff_of_plus_notMem (by decide) hyplus).mp h.year_field
    obtain ⟨hm, hmdigits⟩ := (isField_iff_of_plus_notMem (by decide) hmplus).mp h.month_field
    obtain ⟨hd, hddigits⟩ := (isField_iff_of_plus_notMem (by decide) hdplus).mp h.day_field
    refine ⟨h.text, ⟨hy, hm, hd⟩, ?_, ?_, ?_⟩
    · simp only [List.forall_mem_append]
      exact ⟨⟨hydigits, hmdigits⟩, hddigits⟩
    · have hbounds := h.month_bounds
      rwa [fieldValue, unsignedPart_eq_self hmplus] at hbounds
    · have hbounds := h.day_bounds
      rwa [fieldValue, unsignedPart_eq_self hdplus] at hbounds

theorem exists_isPlainDateOf_iff :
    (∃ year month day, IsPlainDateOf value year month day) ↔
      (∃ year month day, IsDateOf value year month day) ∧ '+' ∉ value := by
  simp only [isPlainDateOf_iff, exists_and_right]

/-- A date is written by its fields. -/
theorem formatDate?_eq_some_iff {out : List Char} :
    formatDate? value = some out ↔
      ∃ year month day, IsDateOf value year month day ∧ out = year ++ month ++ day := by
  unfold formatDate?
  constructor
  · intro h
    split at h
    case h_1 year month day hsplit =>
      dsimp only at h
      split at h
      case isTrue hfields =>
        obtain ⟨hy, hm, hd, hyear, hmonth, hday⟩ := hfields
        obtain ⟨htext, -⟩ := splitOn_eq_three_iff.mp hsplit
        obtain ⟨hyear, -⟩ := (isField_iff (by decide)).mp ⟨hy, hyear⟩
        obtain ⟨hmonth, hmonthBounds⟩ := (isField_iff (by decide)).mp ⟨hm, hmonth⟩
        obtain ⟨hday, hdayBounds⟩ := (isField_iff (by decide)).mp ⟨hd, hday⟩
        exact ⟨year, month, day, ⟨htext, hyear, hmonth, hday, hmonthBounds, hdayBounds⟩,
          (Option.some.inj h).symm⟩
      case isFalse => cases h
    case h_2 => cases h
  · rintro ⟨year, month, day, hdate, rfl⟩
    have hsplit : value.splitOn '-' = [year, month, day] :=
      splitOn_eq_three_iff.mpr ⟨hdate.text, hdate.year_field.hyphen_notMem,
        hdate.month_field.hyphen_notMem, hdate.day_field.hyphen_notMem⟩
    have hyearBounds : 0 ≤ fieldValue year ∧ fieldValue year ≤ 9999 :=
      ⟨Nat.zero_le _, Nat.le_of_lt_succ hdate.year_field.fieldValue_lt⟩
    obtain ⟨hy, hyear⟩ := (isField_iff (by decide)).mpr ⟨hdate.year_field, hyearBounds⟩
    obtain ⟨hm, hmonth⟩ := (isField_iff (by decide)).mpr ⟨hdate.month_field, hdate.month_bounds⟩
    obtain ⟨hd, hday⟩ := (isField_iff (by decide)).mpr ⟨hdate.day_field, hdate.day_bounds⟩
    rw [hsplit]
    exact if_pos ⟨hy, hm, hd, hyear, hmonth, hday⟩

theorem formatDate?_eq_none_iff :
    formatDate? value = none ↔ ¬∃ year month day, IsDateOf value year month day := by
  rw [Option.eq_none_iff_forall_ne_some]
  constructor
  · rintro hnone ⟨year, month, day, hdate⟩
    exact hnone _ (formatDate?_eq_some_iff.mpr ⟨year, month, day, hdate, rfl⟩)
  · intro hnot out hout
    obtain ⟨year, month, day, hdate, -⟩ := formatDate?_eq_some_iff.mp hout
    exact hnot ⟨year, month, day, hdate⟩

/-! ### Written dates -/

theorem write_date_eq_ok_iff {value out : String} :
    ParameterType.date.write value = .ok out ↔ formatDate? value.toList = some out.toList := by
  rw [ParameterType.write_eq_ok_iff, ParameterType.format?_date_eq_some_iff]

/-- **Dates.** A text is written as a date exactly if it consists of numerals of four, two and two
characters for a year, a month and a day of a month, with hyphens between them; what is written is
the numerals in this order. Among the texts without a plus sign these are exactly those of four, two
and two digits. Every other text is refused as an invalid parameter. -/
theorem date_written_iff (value : String) :
    (∀ out : String, ParameterType.date.write value = .ok out ↔
      ∃ year month day, IsDateOf value.toList year month day ∧
        out.toList = year ++ month ++ day) ∧
    (∀ out : String, ParameterType.date.write value = .ok out ∧ '+' ∉ value.toList ↔
      ∃ year month day, IsPlainDateOf value.toList year month day ∧
        out.toList = year ++ month ++ day) ∧
    (ParameterType.date.write value = .error .invalidChallengeParam ↔
      ¬∃ year month day, IsDateOf value.toList year month day) := by
  have hwritten (out : String) : ParameterType.date.write value = .ok out ↔
      ∃ year month day, IsDateOf value.toList year month day ∧
        out.toList = year ++ month ++ day :=
    write_date_eq_ok_iff.trans formatDate?_eq_some_iff
  refine ⟨hwritten, fun out => ?_, ?_⟩
  · rw [hwritten]
    simp only [isPlainDateOf_iff]
    constructor
    · rintro ⟨⟨year, month, day, hdate, hout⟩, hplus⟩
      exact ⟨year, month, day, ⟨hdate, hplus⟩, hout⟩
    · rintro ⟨year, month, day, ⟨hdate, hplus⟩, hout⟩
      exact ⟨⟨year, month, day, hdate, hout⟩, hplus⟩
  · rw [ParameterType.write_eq_error_iff, not_iff_not]
    constructor
    · rintro ⟨out, hout⟩
      obtain ⟨year, month, day, hdate, -⟩ := (hwritten out).mp hout
      exact ⟨year, month, day, hdate⟩
    · rintro ⟨year, month, day, hdate⟩
      exact ⟨_, (hwritten _).mpr ⟨year, month, day, hdate, String.toList_ofList⟩⟩

/-- A plus sign takes the place of a digit. -/
example : ParameterType.date.write "+201-05-20" = .ok "+2010520" := by decide +kernel

end TanDialog.Challenge
