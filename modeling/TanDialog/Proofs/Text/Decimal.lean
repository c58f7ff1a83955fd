import TanDialog.Proofs.Text.Hexadecimal

/-!
# Decimal numbers as text

A run of decimal digits reads as the number that it denotes, however many zeros lead it
(`Numeral.decimal?_of_isDigit`), and but for a plus sign in front nothing else reads
(`Numeral.decimal?_eq_some_iff`). `Numeral.decimalText` writes a number with at least a given number
of digits; the text has that many digits exactly if they are enough, and reads back as the number.
-/

namespace TanDialog.Numeral

theorem toNat_sub_lt_of_isDigit {c : Char} (h : c.isDigit = true) : c.toNat - '0'.toNat < 10 := by
  rw [Char.isDigit, Bool.and_eq_true, decide_eq_true_eq, decide_eq_true_eq] at h
  have hle : c.toNat ≤ '9'.toNat := h.2
  have hnine : '9'.toNat = '0'.toNat + 9 := rfl
  omega

theorem digit?_of_isDigit {c : Char} (h : c.isDigit = true) :
    digit? 10 c = some (c.toNat - '0'.toNat) := by
  have hvalue := toNat_sub_lt_of_isDigit h
  rw [Char.isDigit, Bool.and_eq_true, decide_eq_true_eq, decide_eq_true_eq] at h
  have hrange : '0' ≤ c ∧ c ≤ '9' := h
  rw [digit?, if_pos hrange]
  exact Option.filter_some_pos (by simpa using hvalue)

/-- A run of decimal digits reads as the number that it denotes. -/
theorem digitsFrom?_of_isDigit {cs : List Char} (h : ∀ c ∈ cs, c.isDigit = true) (value : Nat) :
    digitsFrom? 10 value cs = some (Nat.ofDigitChars 10 cs value) := by
  induction cs generalizing value with
  | nil => rfl
  | cons c cs ih =>
    rw [List.forall_mem_cons] at h
    rw [digitsFrom?, digit?_of_isDigit h.1, Option.bind_some, ih h.2, Nat.ofDigitChars_cons]

theorem decimal?_of_isDigit {bound : Nat} {cs : List Char} (hne : cs ≠ [])
    (h : ∀ c ∈ cs, c.isDigit = true) (hlt : Nat.ofDigitChars 10 cs 0 < bound) :
    decimal? bound cs = some (Nat.ofDigitChars 10 cs 0) := by
  have hunsigned : unsignedPart cs = cs :=
    unsignedPart_of_isHexDigit fun c hc => isHexDigit_of_isDigit (h c hc)
  rw [decimal?, read?, hunsigned]
  split
  case h_1 => exact absurd rfl hne
  case h_2 =>
    rw [digitsFrom?_of_isDigit h]
    exact Option.filter_some_pos (by simpa using hlt)

theorem isDigit_of_digit? {c : Char} {d : Nat} (h : digit? 10 c = some d) : c.isDigit = true := by
  obtain ⟨hvalue, hlt⟩ := Option.filter_eq_some_iff.mp h
  split at hvalue
  case isTrue hdecimal =>
    rw [Char.isDigit, Bool.and_eq_true, decide_eq_true_eq, decide_eq_true_eq]
    exact hdecimal
  case isFalse =>
    -- letters count from ten on
    simp only [decide_eq_true_eq] at hlt
    split at hvalue
    · obtain rfl := Option.some.inj hvalue
      omega
    · split at hvalue
      · obtain rfl := Option.some.inj hvalue
        omega
      · cases hvalue

/-- Nothing but runs of decimal digits reads. -/
theorem digitsFrom?_eq_some_iff {cs : List Char} {value n : Nat} :
    digitsFrom? 10 value cs = some n ↔
      (∀ c ∈ cs, c.isDigit = true) ∧ Nat.ofDigitChars 10 cs value = n := by
  constructor
  · intro h
    have hdigits : ∀ c ∈ cs, c.isDigit = true := by
      induction cs generalizing value with
      | nil => exact fun _ hc => nomatch hc
      | cons c cs ih =>
        obtain ⟨d, hd, hrest⟩ := Option.bind_eq_some_iff.mp h
        exact List.forall_mem_cons.mpr ⟨isDigit_of_digit? hd, ih hrest⟩
    rw [digitsFrom?_of_isDigit hdigits] at h
    exact ⟨hdigits, Option.some.inj h⟩
  · rintro ⟨hdigits, rfl⟩
    exact digitsFrom?_of_isDigit hdigits value

/-- A numeral is a nonempty run of digits, possibly behind a plus sign. -/
theorem decimal?_eq_some_iff {bound n : Nat} {cs : List Char} :
    decimal? bound cs = some n ↔
      unsignedPart cs ≠ [] ∧ (∀ c ∈ unsignedPart cs, c.isDigit = true) ∧
        Nat.ofDigitChars 10 (unsignedPart cs) 0 = n ∧ n < bound := by
  rw [decimal?, read?]
  split
  case h_1 hnil => simp [hnil]
  case h_2 hne =>
    rw [Option.filter_eq_some_iff, digitsFrom?_eq_some_iff, decide_eq_true_eq, and_assoc]
    exact (and_iff_right hne).symm

/-- A number has no more than its digits allow. -/
theorem digitsFrom?_lt {base value n : Nat} {cs : List Char}
    (h : digitsFrom? base value cs = some n) : n < (value + 1) * base ^ cs.length := by
  induction cs generalizing value with
  | nil =>
    cases h
    simp
  | cons c cs ih =>
    obtain ⟨d, hd, h⟩ := Option.bind_eq_some_iff.mp h
    have hdigit : d < base := by
      unfold digit? at hd
      simpa using (Option.filter_eq_some_iff.mp hd).2
    have hvalue : base * value + d + 1 ≤ base * (value + 1) := by
      rw [Nat.mul_add]
      omega
    calc n < (base * value + d + 1) * base ^ cs.length := ih h
      _ ≤ base * (value + 1) * base ^ cs.length := Nat.mul_le_mul_right _ hvalue
      _ = (value + 1) * base ^ (c :: cs).length := by
        rw [List.length_cons, Nat.pow_succ, Nat.mul_comm base, Nat.mul_assoc, Nat.mul_comm base]

theorem decimal?_lt {bound n : Nat} {cs : List Char} (h : decimal? bound cs = some n) :
    n < 10 ^ cs.length := by
  have hunsigned : (unsignedPart cs).length ≤ cs.length := by
    unfold unsignedPart
    split
    · exact Nat.le_succ _
    · exact Nat.le_refl _
  unfold decimal? read? at h
  split at h
  · cases h
  · have hlt := digitsFrom?_lt (Option.filter_eq_some_iff.mp h).1
    rw [Nat.zero_add, Nat.one_mul] at hlt
    exact Nat.lt_of_lt_of_le hlt (Nat.pow_le_pow_right (by decide) hunsigned)

/-! ### Writing -/

/-- The decimal digits of a number, padded with zeros to at least `width`. -/
def decimalText (width n : Nat) : List Char :=
  List.replicate (width - (Nat.toDigits 10 n).length) '0' ++ Nat.toDigits 10 n

theorem isDigit_of_mem_decimalText {width n : Nat} {c : Char} (h : c ∈ decimalText width n) :
    c.isDigit = true := by
  rcases List.mem_append.mp h with h | h
  · rw [List.eq_of_mem_replicate h]
    rfl
  · exact Nat.isDigit_of_mem_toDigits (by decide) (Nat.le_refl 10) h

/-- What is written reads back as the number it was. -/
theorem decimal?_decimalText {bound n : Nat} (width : Nat) (h : n < bound) :
    decimal? bound (decimalText width n) = some n := by
  have hvalue : Nat.ofDigitChars 10 (decimalText width n) 0 = n := by
    rw [decimalText, Nat.ofDigitChars_append, Nat.ofDigitChars_replicate_zero, Nat.mul_zero,
      Nat.ofDigitChars_ten_toDigits]
  have hne : decimalText width n ≠ [] := fun hnil =>
    Nat.toDigits_ne_nil (List.append_eq_nil_iff.mp hnil).2
  have hread : decimal? bound (decimalText width n) =
      some (Nat.ofDigitChars 10 (decimalText width n) 0) :=
    decimal?_of_isDigit hne (fun c hc => isDigit_of_mem_decimalText hc) (by rwa [hvalue])
  rwa [hvalue] at hread

/-- A number that fits into the width is written in just that many digits. -/
theorem length_decimalText {width n : Nat} (hwidth : 0 < width) (h : n < 10 ^ width) :
    (decimalText width n).length = width := by
  have hle : (Nat.toDigits 10 n).length ≤ width :=
    (Nat.length_toDigits_le_iff (by decide) hwidth).mpr h
  rw [decimalText, List.length_append, List.length_replicate]
  omega

end TanDialog.Numeral
