import Mathlib.Algebra.Order.Field.Rat
import Mathlib.Data.List.DropRight
import Mathlib.Tactic.FieldSimp
import Mathlib.Tactic.Linarith
import Mathlib.Tactic.Positivity
import Mathlib.Tactic.Ring
import TanDialog.Passport.Session
import TanDialog.Proofs.Text.Decimal

/-!
# Amounts as challenge parameters

An amount is written for the TAN generator with a comma in the place of the point and without zeros
at the end. Neither changes the amount that the text denotes (`amountOf`), as the digits behind the
mark count by their position from the left, and a zero at the end adds nothing
(`fractionValue_trimZeros`). Without such zeros the digits behind the mark are determined by what
they denote (`eq_of_fractionValue_eq`), and so amounts with the same digits in front of it are
written alike exactly if they are the same amount (`amount_kept`).
-/

namespace TanDialog.Challenge

/-! ### Texts of amounts -/

/-- What stands in front of a decimal mark. -/
def wholePart (mark : Char) (cs : List Char) : List Char := cs.takeWhile (· ≠ mark)

/-- What stands behind a decimal mark. -/
def fractionPart (mark : Char) (cs : List Char) : List Char := (cs.dropWhile (· ≠ mark)).drop 1

/-- The amount that a text with a decimal mark denotes: the number written by all of its digits,
divided by ten for each one behind the mark. -/
def amountOf (mark : Char) (cs : List Char) : ℚ :=
  Nat.ofDigitChars 10 (wholePart mark cs ++ fractionPart mark cs) 0 /
    10 ^ (fractionPart mark cs).length

/-- A nonempty run of digits, and possibly a point with another run of digits behind it, which may
be empty. -/
def IsAmount (cs : List Char) : Prop :=
  ∃ whole, whole ≠ [] ∧ (∀ c ∈ whole, c.isDigit = true) ∧
    (cs = whole ∨ ∃ fraction, (∀ c ∈ fraction, c.isDigit = true) ∧ cs = whole ++ '.' :: fraction)

/-- The digits of an amount in front of its point and behind it, where zeros at the end do not
count. -/
structure IsAmountOf (cs whole fraction : List Char) : Prop where
  ne_nil : whole ≠ []
  isDigit : ∀ c ∈ whole ++ fraction, c.isDigit = true
  getLast? : fraction.getLast? ≠ some '0'
  text : cs = whole ∧ fraction = [] ∨
    ∃ zeros, cs = whole ++ '.' :: (fraction ++ zeros) ∧ ∀ c ∈ zeros, c = '0'

section Parts

variable {mark : Char} {cs whole fraction : List Char}

theorem wholePart_eq_self (h : mark ∉ cs) : wholePart mark cs = cs :=
  List.takeWhile_eq_self_iff.mpr fun c hc => by
    simpa using fun heq : c = mark => h (heq ▸ hc)

theorem fractionPart_eq_nil (h : mark ∉ cs) : fractionPart mark cs = [] := by
  have hdrop : cs.dropWhile (· ≠ mark) = [] :=
    List.dropWhile_eq_nil_iff.mpr fun c hc => by
      simpa using fun heq : c = mark => h (heq ▸ hc)
  rw [fractionPart, hdrop, List.drop_nil]

theorem wholePart_append (h : mark ∉ whole) :
    wholePart mark (whole ++ mark :: fraction) = whole := by
  rw [wholePart, List.takeWhile_append_of_pos, List.takeWhile_cons_of_neg (by simp),
    List.append_nil]
  exact fun c hc => by simpa using fun heq : c = mark => h (heq ▸ hc)

theorem fractionPart_append (h : mark ∉ whole) :
    fractionPart mark (whole ++ mark :: fraction) = fraction := by
  rw [fractionPart, List.dropWhile_append_of_pos, List.dropWhile_cons_of_neg (by simp),
    List.drop_succ_cons, List.drop_zero]
  exact fun c hc => by simpa using fun heq : c = mark => h (heq ▸ hc)

/-- A text is what stands in front of its mark, or else both parts with the mark between them. -/
theorem eq_wholePart_or_append (mark : Char) (cs : List Char) :
    cs = wholePart mark cs ∧ fractionPart mark cs = [] ∨
      cs = wholePart mark cs ++ mark :: fractionPart mark cs := by
  by_cases h : mark ∈ cs
  · obtain ⟨whole, fraction, rfl, hwhole⟩ := List.eq_append_cons_of_mem h
    right
    rw [wholePart_append hwhole, fractionPart_append hwhole]
  · exact .inl ⟨(wholePart_eq_self h).symm, fractionPart_eq_nil h⟩

theorem mark_notMem (hmark : mark.isDigit = false) (h : ∀ c ∈ cs, c.isDigit = true) : mark ∉ cs :=
  fun hmem => by
    rw [h mark hmem] at hmark
    cases hmark

end Parts

/-- A text is an amount if it has digits only in both of its parts, and some in the first one. -/
theorem isAmount_iff {cs : List Char} :
    IsAmount cs ↔ wholePart '.' cs ≠ [] ∧ (∀ c ∈ wholePart '.' cs, c.isDigit = true) ∧
      ∀ c ∈ fractionPart '.' cs, c.isDigit = true := by
  constructor
  · rintro ⟨whole, hne, hwhole, rfl | ⟨fraction, hfraction, rfl⟩⟩
    · have hpoint : '.' ∉ cs := mark_notMem rfl hwhole
      rw [wholePart_eq_self hpoint, fractionPart_eq_nil hpoint]
      exact ⟨hne, hwhole, fun _ hc => nomatch hc⟩
    · have hpoint : '.' ∉ whole := mark_notMem rfl hwhole
      rw [wholePart_append hpoint, fractionPart_append hpoint]
      exact ⟨hne, hwhole, hfraction⟩
  · rintro ⟨hne, hwhole, hfraction⟩
    refine ⟨wholePart '.' cs, hne, hwhole, ?_⟩
    rcases eq_wholePart_or_append '.' cs with ⟨htext, -⟩ | htext
    · exact .inl htext
    · exact .inr ⟨fractionPart '.' cs, hfraction, htext⟩

/-! ### Digits behind a decimal mark -/

/-- What digits behind a decimal mark add to an amount. -/
def fractionValue : List Char → ℚ
  | [] => 0
  | c :: cs => ((c.toNat - '0'.toNat : ℕ) + fractionValue cs) / 10

theorem ofDigitChars_div_eq (cs : List Char) :
    (Nat.ofDigitChars 10 cs 0 : ℚ) / 10 ^ cs.length = fractionValue cs := by
  induction cs with
  | nil => simp [fractionValue]
  | cons c cs ih =>
    rw [fractionValue, ← ih, Nat.ofDigitChars_cons, Nat.ofDigitChars_eq_ofDigitChars_zero,
      List.length_cons]
    push_cast
    field_simp
    ring

/-- An amount is the number in front of the mark and what the digits behind it add. -/
theorem amountOf_eq (mark : Char) (cs : List Char) :
    amountOf mark cs =
      Nat.ofDigitChars 10 (wholePart mark cs) 0 + fractionValue (fractionPart mark cs) := by
  rw [amountOf, ← ofDigitChars_div_eq, Nat.ofDigitChars_append,
    Nat.ofDigitChars_eq_ofDigitChars_zero]
  push_cast
  field_simp

theorem fractionValue_append_zero (cs : List Char) :
    fractionValue (cs ++ ['0']) = fractionValue cs := by
  induction cs with
  | nil => norm_num [fractionValue]
  | cons c cs ih => rw [List.cons_append, fractionValue, fractionValue, ih]

/-- Zeros at the end add nothing. -/
theorem fractionValue_trimZeros (cs : List Char) :
    fractionValue (trimZeros cs) = fractionValue cs := by
  change fractionValue (cs.rdropWhile (· == '0')) = fractionValue cs
  induction cs using List.reverseRecOn with
  | nil => rfl
  | append_singleton cs c ih =>
    by_cases hc : c = '0'
    · rw [List.rdropWhile_concat_pos _ _ _ (by simp [hc]), ih, hc, fractionValue_append_zero]
    · rw [List.rdropWhile_concat_neg _ _ _ (by simp [hc])]

theorem getLast?_trimZeros (cs : List Char) : (trimZeros cs).getLast? ≠ some '0' := by
  intro hlast
  rw [trimZeros, List.getLast?_reverse] at hlast
  have hfirst := List.head?_dropWhile_not (· == '0') cs.reverse
  rw [hlast] at hfirst
  cases hfirst

theorem exists_trimZeros_append (cs : List Char) :
    ∃ zeros, trimZeros cs ++ zeros = cs ∧ ∀ c ∈ zeros, c = '0' := by
  refine ⟨cs.rtakeWhile (· == '0'), List.rdropWhile_append_rtakeWhile, fun c hc => ?_⟩
  simpa using List.mem_rtakeWhile_imp hc

theorem trimZeros_append {cs zeros : List Char} (hcs : cs.getLast? ≠ some '0')
    (hzeros : ∀ c ∈ zeros, c = '0') : trimZeros (cs ++ zeros) = cs := by
  have hback : ∀ c ∈ zeros.reverse, (c == '0') = true := by simpa using hzeros
  have hkept : cs.rdropWhile (· == '0') = cs := by
    refine List.rdropWhile_eq_self_iff.mpr fun hne hlast => hcs ?_
    rw [List.getLast?_eq_some_getLast hne, eq_of_beq hlast]
  rw [trimZeros, List.reverse_append, List.dropWhile_append_of_pos hback]
  exact hkept

theorem mem_of_mem_trimZeros {cs : List Char} {c : Char} (h : c ∈ trimZeros cs) : c ∈ cs :=
  (List.rdropWhile_prefix (· == '0') cs).subset h

theorem fractionValue_nonneg (cs : List Char) : 0 ≤ fractionValue cs := by
  induction cs with
  | nil => exact le_refl 0
  | cons c cs ih =>
    rw [fractionValue]
    positivity

theorem fractionValue_lt_one {cs : List Char} (h : ∀ c ∈ cs, c.isDigit = true) :
    fractionValue cs < 1 := by
  induction cs with
  | nil => norm_num [fractionValue]
  | cons c cs ih =>
    rw [List.forall_mem_cons] at h
    have hdigit : ((c.toNat - '0'.toNat : ℕ) : ℚ) ≤ 9 := by
      exact_mod_cast Nat.le_of_lt_succ (Numeral.toNat_sub_lt_of_isDigit h.1)
    have hrest := ih h.2
    rw [fractionValue, div_lt_one (by norm_num)]
    linarith

theorem getLast?_of_cons {c : Char} {cs : List Char} (h : (c :: cs).getLast? ≠ some '0') :
    cs.getLast? ≠ some '0' := by
  rintro hlast
  exact h (by rw [List.getLast?_cons, hlast, Option.getD_some])

theorem toNat_sub_inj {c d : Char} (hc : c.isDigit = true) (hd : d.isDigit = true)
    (h : c.toNat - '0'.toNat = d.toNat - '0'.toNat) : c = d := by
  rw [Char.isDigit, Bool.and_eq_true, decide_eq_true_eq, decide_eq_true_eq] at hc hd
  have hc' : '0'.toNat ≤ c.toNat := hc.1
  have hd' : '0'.toNat ≤ d.toNat := hd.1
  exact Char.toNat_inj.mp (by omega)

/-- Digits that do not end in a zero add something unless there are none. -/
theorem eq_nil_of_fractionValue_eq_zero {cs : List Char} (h : ∀ c ∈ cs, c.isDigit = true)
    (hlast : cs.getLast? ≠ some '0') (hzero : fractionValue cs = 0) : cs = [] := by
  induction cs with
  | nil => rfl
  | cons c cs ih =>
    rw [List.forall_mem_cons] at h
    have hnonneg := fractionValue_nonneg cs
    have hsum : ((c.toNat - '0'.toNat : ℕ) : ℚ) + fractionValue cs = 0 := by
      rw [fractionValue] at hzero
      linarith
    have hrest : fractionValue cs = 0 := by
      have hdigit : (0 : ℚ) ≤ (c.toNat - '0'.toNat : ℕ) := by positivity
      linarith
    have hnil : cs = [] := ih h.2 (getLast?_of_cons hlast) hrest
    have hdigit : c.toNat - '0'.toNat = 0 := by
      rw [hrest, add_zero] at hsum
      exact_mod_cast hsum
    -- the only digit would be a zero at the end
    have hc : c = '0' := toNat_sub_inj h.1 rfl hdigit
    rw [hnil, hc] at hlast
    exact absurd rfl hlast

/-- Digits that do not end in a zero are determined by what they add. -/
theorem eq_of_fractionValue_eq {cs ds : List Char} (hc : ∀ c ∈ cs, c.isDigit = true)
    (hd : ∀ d ∈ ds, d.isDigit = true) (hcs : cs.getLast? ≠ some '0')
    (hds : ds.getLast? ≠ some '0') (h : fractionValue cs = fractionValue ds) : cs = ds := by
  induction cs generalizing ds with
  | nil => exact (eq_nil_of_fractionValue_eq_zero hd hds h.symm).symm
  | cons c cs ih =>
    cases ds with
    | nil => exact eq_nil_of_fractionValue_eq_zero hc hcs h
    | cons d ds =>
      rw [List.forall_mem_cons] at hc hd
      have hsum : ((c.toNat - '0'.toNat : ℕ) : ℚ) + fractionValue cs =
          (d.toNat - '0'.toNat : ℕ) + fractionValue ds := by
        rw [fractionValue, fractionValue] at h
        linarith
      -- the first digits are the whole parts of the two sums
      have hdigit : c.toNat - '0'.toNat = d.toNat - '0'.toNat := by
        have hle {m n : ℕ} {u v : ℚ} (hv : 0 ≤ v) (hu : u < 1) (hmn : (n : ℚ) + v = m + u) :
            n ≤ m := by
          have hlt : (n : ℚ) < m + 1 := by linarith
          exact Nat.le_of_lt_succ (by exact_mod_cast hlt)
        exact le_antisymm (hle (fractionValue_nonneg cs) (fractionValue_lt_one hd.2) hsum)
          (hle (fractionValue_nonneg ds) (fractionValue_lt_one hc.2) hsum.symm)
      have hrest : fractionValue cs = fractionValue ds := by
        rw [hdigit] at hsum
        linarith
      rw [toNat_sub_inj hc.1 hd.1 hdigit,
        ih hc.2 hd.2 (getLast?_of_cons hcs) (getLast?_of_cons hds) hrest]

/-! ### Written amounts -/

theorem formatAmount?_eq_some_iff {cs out : List Char} :
    formatAmount? cs = some out ↔
      IsAmount cs ∧ out = wholePart '.' cs ++ ',' :: trimZeros (fractionPart '.' cs) := by
  have hformat : formatAmount? cs =
      if !(wholePart '.' cs).isEmpty && (wholePart '.' cs).all Char.isDigit &&
          (fractionPart '.' cs).all Char.isDigit then
        some (wholePart '.' cs ++ ',' :: trimZeros (fractionPart '.' cs))
      else none := rfl
  have hamount : (!(wholePart '.' cs).isEmpty && (wholePart '.' cs).all Char.isDigit &&
      (fractionPart '.' cs).all Char.isDigit) = true ↔ IsAmount cs := by
    rw [isAmount_iff]
    simp [and_assoc]
  rw [hformat, ← hamount]
  split
  case isTrue h => simp [h, eq_comm]
  case isFalse h => simp [h]

theorem formatAmount?_eq_none_iff {cs : List Char} : formatAmount? cs = none ↔ ¬IsAmount cs := by
  rw [Option.eq_none_iff_forall_ne_some]
  constructor
  · intro hnone hamount
    exact hnone _ (formatAmount?_eq_some_iff.mpr ⟨hamount, rfl⟩)
  · intro hnot out hout
    exact hnot (formatAmount?_eq_some_iff.mp hout).1

/-- An amount is written by its digits, with a comma in the place of the point. -/
theorem formatAmount?_eq_some_iff_isAmountOf {cs out : List Char} :
    formatAmount? cs = some out ↔
      ∃ whole fraction, IsAmountOf cs whole fraction ∧ out = whole ++ ',' :: fraction := by
  rw [formatAmount?_eq_some_iff]
  constructor
  · rintro ⟨hamount, rfl⟩
    obtain ⟨hne, hwhole, hfraction⟩ := isAmount_iff.mp hamount
    refine ⟨_, _, ⟨hne, fun c hc => ?_, getLast?_trimZeros _, ?_⟩, rfl⟩
    · exact (List.mem_append.mp hc).elim (hwhole c) fun hc => hfraction c (mem_of_mem_trimZeros hc)
    · rcases eq_wholePart_or_append '.' cs with ⟨htext, hnil⟩ | htext
      · exact .inl ⟨htext, by rw [hnil]; rfl⟩
      · obtain ⟨zeros, hsplit, hzeros⟩ := exists_trimZeros_append (fractionPart '.' cs)
        exact .inr ⟨zeros, by rw [hsplit]; exact htext, hzeros⟩
  · rintro ⟨whole, fraction, ⟨hne, hdigits, hlast, htext⟩, rfl⟩
    rw [List.forall_mem_append] at hdigits
    have hpoint : '.' ∉ whole := mark_notMem rfl hdigits.1
    rcases htext with ⟨rfl, rfl⟩ | ⟨zeros, rfl, hzeros⟩
    · rw [wholePart_eq_self hpoint, fractionPart_eq_nil hpoint]
      exact ⟨⟨cs, hne, hdigits.1, .inl rfl⟩, rfl⟩
    · rw [wholePart_append hpoint, fractionPart_append hpoint, trimZeros_append hlast hzeros]
      refine ⟨⟨whole, hne, hdigits.1, .inr ⟨_, fun c hc => ?_, rfl⟩⟩, rfl⟩
      rcases List.mem_append.mp hc with hc | hc
      · exact hdigits.2 c hc
      · rw [hzeros c hc]
        rfl

theorem write_amount_eq_ok_iff {value out : String} :
    ParameterType.amount.write value = .ok out ↔ formatAmount? value.toList = some out.toList := by
  rw [ParameterType.write_eq_ok_iff, ParameterType.format?_amount_eq_some_iff]

/-- What is written, with its digits in front of the comma and behind it. -/
theorem write_amount_ok {value out : String} (h : ParameterType.amount.write value = .ok out) :
    (∀ c ∈ fractionPart '.' value.toList, c.isDigit = true) ∧
      (∀ c ∈ wholePart '.' value.toList, c.isDigit = true) ∧
      out.toList = wholePart '.' value.toList ++ ',' :: trimZeros (fractionPart '.' value.toList) ∧
      wholePart ',' out.toList = wholePart '.' value.toList ∧
      fractionPart ',' out.toList = trimZeros (fractionPart '.' value.toList) := by
  obtain ⟨hvalue, hout⟩ := formatAmount?_eq_some_iff.mp (write_amount_eq_ok_iff.mp h)
  obtain ⟨-, hwhole, hfraction⟩ := isAmount_iff.mp hvalue
  have hcomma : ',' ∉ wholePart '.' value.toList := mark_notMem rfl hwhole
  refine ⟨hfraction, hwhole, hout, ?_, ?_⟩
  · rw [hout, wholePart_append hcomma]
  · rw [hout, fractionPart_append hcomma]

/-- **Amounts.** A text is written as an amount exactly if it is a nonempty run of digits, or that
with a point and another, possibly empty run of digits behind it, and is refused as an invalid
parameter otherwise. What is written has one comma among its digits, the digits in front of it are
those in front of the point, those behind it do not end in a zero, and it denotes the same amount.
Of two texts with the same digits in front of the point the same is written exactly if they denote
the same amount. -/
theorem amount_kept (value : String) :
    ((∃ out, ParameterType.amount.write value = .ok out) ↔ IsAmount value.toList) ∧
    (ParameterType.amount.write value = .error .invalidChallengeParam ↔
      ¬IsAmount value.toList) ∧
    (∀ out : String, ParameterType.amount.write value = .ok out →
      out.toList.count ',' = 1 ∧ (∀ c ∈ out.toList, c = ',' ∨ c.isDigit = true) ∧
      wholePart ',' out.toList = wholePart '.' value.toList ∧
      (fractionPart ',' out.toList).getLast? ≠ some '0' ∧
      amountOf ',' out.toList = amountOf '.' value.toList) ∧
    ∀ value' out out' : String, ParameterType.amount.write value = .ok out →
      ParameterType.amount.write value' = .ok out' →
      wholePart '.' value.toList = wholePart '.' value'.toList →
      (out = out' ↔ amountOf '.' value.toList = amountOf '.' value'.toList) := by
  have hwritten : (∃ out, ParameterType.amount.write value = .ok out) ↔ IsAmount value.toList := by
    constructor
    · rintro ⟨out, hout⟩
      exact (formatAmount?_eq_some_iff.mp (write_amount_eq_ok_iff.mp hout)).1
    · intro h
      exact ⟨.ofList _, write_amount_eq_ok_iff.mpr
        (formatAmount?_eq_some_iff.mpr ⟨h, String.toList_ofList⟩)⟩
  refine ⟨hwritten, ?_, fun out hout => ?_, fun value' out out' hout hout' hsame => ?_⟩
  · rw [← hwritten]
    exact ParameterType.write_eq_error_iff
  · obtain ⟨hfraction, hwhole, htext, hwholePart, hfractionPart⟩ := write_amount_ok hout
    have htrimmed : ∀ c ∈ trimZeros (fractionPart '.' value.toList), c.isDigit = true :=
      fun c hc => hfraction c (mem_of_mem_trimZeros hc)
    refine ⟨?_, fun c hc => ?_, hwholePart, hfractionPart ▸ getLast?_trimZeros _, ?_⟩
    · rw [htext, List.count_append, List.count_cons_self,
        List.count_eq_zero_of_not_mem (mark_notMem rfl hwhole),
        List.count_eq_zero_of_not_mem (mark_notMem rfl htrimmed)]
    · rw [htext, List.mem_append, List.mem_cons] at hc
      rcases hc with hc | rfl | hc
      · exact .inr (hwhole c hc)
      · exact .inl rfl
      · exact .inr (htrimmed c hc)
    · rw [amountOf_eq, amountOf_eq, hwholePart, hfractionPart, fractionValue_trimZeros]
  · obtain ⟨hfraction, -, htext, -⟩ := write_amount_ok hout
    obtain ⟨hfraction', -, htext', -⟩ := write_amount_ok hout'
    rw [← String.toList_inj, htext, htext', amountOf_eq, amountOf_eq, hsame,
      List.append_cancel_left_eq, List.cons_inj_right, add_right_inj]
    constructor
    · intro htrimmed
      rw [← fractionValue_trimZeros, htrimmed, fractionValue_trimZeros]
    · intro hvalues
      refine eq_of_fractionValue_eq (fun c hc => hfraction c (mem_of_mem_trimZeros hc))
        (fun c hc => hfraction' c (mem_of_mem_trimZeros hc)) (getLast?_trimZeros _)
        (getLast?_trimZeros _) ?_
      rw [fractionValue_trimZeros, fractionValue_trimZeros, hvalues]

/-- Two ways to write the same amount, and one of a higher one. -/
theorem amount_kept_sample :
    let write := ParameterType.amount.write
    write "100.50" = .ok "100,5" ∧ write "100.5" = .ok "100,5" ∧ write "100.05" = .ok "100,05" ∧
      amountOf ',' "100,5".toList = amountOf '.' "100.50".toList ∧
      amountOf '.' "100.50".toList = amountOf '.' "100.5".toList ∧
      amountOf '.' "100.50".toList ≠ amountOf '.' "100.05".toList := by
  intro write
  have hlong : write "100.50" = .ok "100,5" := by decide +kernel
  have hshort : write "100.5" = .ok "100,5" := by decide +kernel
  have hother : write "100.05" = .ok "100,05" := by decide +kernel
  obtain ⟨-, -, hkept, halike⟩ := amount_kept "100.50"
  obtain ⟨-, -, -, -, hamount⟩ := hkept "100,5" hlong
  refine ⟨hlong, hshort, hother, hamount, ?_, ?_⟩
  · exact (halike "100.5" _ _ hlong hshort (by decide)).mp rfl
  · intro heq
    have hsame := (halike "100.05" _ _ hlong hother (by decide)).mpr heq
    exact absurd hsame (by decide)

end TanDialog.Challenge
