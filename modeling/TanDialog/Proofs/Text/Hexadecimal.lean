import Mathlib.Algebra.Ring.Nat
import TanDialog.Text.Numeral

/-!
# Hexadecimal numbers as text

Whatever is written in hexadecimal digits reads back as the number it was, whatever the width
(`Numeral.hexadecimal?_hexText`), so that two numbers of the same text are equal. The width is a
minimum: a number that needs more digits gets them, and so the text of a byte has two digits, and
that of a larger number has more (`Numeral.length_hexText_eq_iff`).
-/

namespace TanDialog.Numeral

/-- An upper-case hexadecimal digit. -/
def IsHexDigit (c : Char) : Prop := c ∈ "0123456789ABCDEF".toList

instance (c : Char) : Decidable (IsHexDigit c) :=
  inferInstanceAs (Decidable (c ∈ "0123456789ABCDEF".toList))

theorem isHexDigit_digitChar : ∀ d < 16, IsHexDigit (Nat.digitChar d).toUpper := by decide

theorem digit?_digitChar : ∀ d < 16, digit? 16 (Nat.digitChar d).toUpper = some d := by decide

theorem isHexDigit_of_isDigit {c : Char} (h : c.isDigit = true) : IsHexDigit c := by
  have hdigits : ∀ n < 58, 48 ≤ n → IsHexDigit (Char.ofNat n) := by decide
  rw [Char.isDigit, Bool.and_eq_true, decide_eq_true_eq, decide_eq_true_eq] at h
  have hdigit := hdigits c.toNat (Nat.lt_succ_of_le h.2) h.1
  rwa [Char.ofNat_toNat] at hdigit

/-! ### The digits of a number -/

/-- The upper-case hexadecimal digits of a number, without any in front. -/
def hexDigits (n : Nat) : List Char := (Nat.toDigits 16 n).map Char.toUpper

/-- The digits are those of the sixteenth part of the number and the last one. -/
theorem hexDigits_eq (n : Nat) :
    hexDigits n =
      (if n < 16 then [] else hexDigits (n / 16)) ++ [(Nat.digitChar (n % 16)).toUpper] := by
  rw [hexDigits, Nat.toDigits_eq_if (by decide)]
  split
  case isTrue hlt => rw [Nat.mod_eq_of_lt hlt]; rfl
  case isFalse => rw [List.map_append]; rfl

theorem isHexDigit_of_mem_hexDigits {n : Nat} {c : Char} (h : c ∈ hexDigits n) : IsHexDigit c := by
  induction n using Nat.strongRecOn with
  | ind n ih =>
    rw [hexDigits_eq, List.mem_append, List.mem_singleton] at h
    rcases h with h | rfl
    · split at h
      case isTrue => cases h
      case isFalse hge => exact ih (n / 16) (by omega) h
    · exact isHexDigit_digitChar _ (Nat.mod_lt _ (by decide))

theorem digitsFrom?_append {base value : Nat} {cs ds : List Char} :
    digitsFrom? base value (cs ++ ds) =
      (digitsFrom? base value cs).bind fun value => digitsFrom? base value ds := by
  induction cs generalizing value with
  | nil => rfl
  | cons c cs ih =>
    simp only [List.cons_append, digitsFrom?]
    cases digit? base c with
    | none => rfl
    | some d => exact ih

theorem digitsFrom?_hexDigits (n : Nat) : digitsFrom? 16 0 (hexDigits n) = some n := by
  induction n using Nat.strongRecOn with
  | ind n ih =>
    have hfront : digitsFrom? 16 0 (if n < 16 then [] else hexDigits (n / 16)) = some (n / 16) := by
      split
      case isTrue hlt => rw [Nat.div_eq_of_lt hlt]; rfl
      case isFalse hge => exact ih (n / 16) (by omega)
    rw [hexDigits_eq, digitsFrom?_append, hfront, Option.bind_some, digitsFrom?,
      digit?_digitChar _ (Nat.mod_lt _ (by decide)), Option.bind_some, digitsFrom?,
      Nat.div_add_mod]

/-! ### Padded texts -/

theorem hexText_eq (width n : Nat) :
    hexText width n = List.replicate (width - (hexDigits n).length) '0' ++ hexDigits n := rfl

theorem isHexDigit_of_mem_hexText {width n : Nat} {c : Char} (h : c ∈ hexText width n) :
    IsHexDigit c := by
  rw [hexText_eq, List.mem_append] at h
  rcases h with h | h
  · rw [List.eq_of_mem_replicate h]
    decide
  · exact isHexDigit_of_mem_hexDigits h

theorem digitsFrom?_replicate_zero (k : Nat) :
    digitsFrom? 16 0 (List.replicate k '0') = some 0 := by
  induction k with
  | zero => rfl
  | succ k ih =>
    have hzero : digit? 16 '0' = some 0 := by decide
    rw [List.replicate_succ, digitsFrom?, hzero]
    exact ih

theorem unsignedPart_eq_self {cs : List Char} (h : '+' ∉ cs) : unsignedPart cs = cs := by
  unfold unsignedPart
  split
  case h_1 => exact absurd List.mem_cons_self h
  case h_2 => rfl

theorem unsignedPart_of_isHexDigit {cs : List Char} (h : ∀ c ∈ cs, IsHexDigit c) :
    unsignedPart cs = cs :=
  unsignedPart_eq_self fun hplus => absurd (h '+' hplus) (by decide)

theorem hexText_ne_nil (width n : Nat) : hexText width n ≠ [] := by
  rw [hexText_eq, hexDigits_eq]
  simp

/-- What is written reads back as the number it was. -/
theorem hexadecimal?_hexText {bound n : Nat} (width : Nat) (h : n < bound) :
    hexadecimal? bound (hexText width n) = some n := by
  have hdigits : digitsFrom? 16 0 (hexText width n) = some n := by
    rw [hexText_eq, digitsFrom?_append, digitsFrom?_replicate_zero, Option.bind_some,
      digitsFrom?_hexDigits]
  rw [hexadecimal?, read?, unsignedPart_of_isHexDigit fun c hc => isHexDigit_of_mem_hexText hc]
  split
  case h_1 hnil => exact absurd hnil (hexText_ne_nil width n)
  case h_2 => rw [hdigits, Option.filter_some_pos (by simpa using h)]

theorem hexText_injective (width : Nat) : Function.Injective (hexText width) := by
  intro m n h
  have hm := hexadecimal?_hexText width (Nat.lt_succ_of_le (Nat.le_max_left m n))
  rw [h, hexadecimal?_hexText width (Nat.lt_succ_of_le (Nat.le_max_right m n))] at hm
  exact (Option.some.inj hm).symm

/-! ### Widths -/

theorem length_hexText_pos (width n : Nat) : 0 < (hexText width n).length :=
  List.length_pos_iff.mpr (hexText_ne_nil width n)

theorem length_hexText (width n : Nat) :
    (hexText width n).length = max width (Nat.toDigits 16 n).length := by
  rw [hexText_eq, List.length_append, List.length_replicate, hexDigits, List.length_map]
  omega

theorem length_hexText_le_iff {width k n : Nat} (h : 0 < k) :
    (hexText width n).length ≤ k ↔ width ≤ k ∧ n < 16 ^ k := by
  rw [length_hexText, Nat.max_le, Nat.length_toDigits_le_iff (by decide) h]

/-- The text has the given width exactly if the number fits into it. -/
theorem length_hexText_eq_iff {width n : Nat} (h : 0 < width) :
    (hexText width n).length = width ↔ n < 16 ^ width := by
  have hle : width ≤ (hexText width n).length := length_hexText width n ▸ Nat.le_max_left _ _
  rw [Nat.le_antisymm_iff, length_hexText_le_iff h]
  exact ⟨fun heq => heq.1.2, fun hlt => ⟨⟨Nat.le_refl _, hlt⟩, hle⟩⟩

/-- A larger number does not have a shorter text. -/
theorem length_hexText_mono (width : Nat) {m n : Nat} (h : m ≤ n) :
    (hexText width m).length ≤ (hexText width n).length := by
  obtain ⟨hwidth, hn⟩ := (length_hexText_le_iff (length_hexText_pos width n)).mp (Nat.le_refl _)
  exact (length_hexText_le_iff (length_hexText_pos width n)).mpr ⟨hwidth, Nat.lt_of_le_of_lt h hn⟩

theorem length_byteText {n : Nat} (h : n < 256) : (hexText 2 n).length = 2 :=
  (length_hexText_eq_iff (by decide)).mpr h

theorem length_bytesHex (bytes : List UInt8) : (bytesHex bytes).length = 2 * bytes.length := by
  induction bytes with
  | nil => rfl
  | cons b bytes ih =>
    rw [bytesHex_cons, List.length_append, length_byteText b.toNat_lt, ih, List.length_cons]
    omega

/-! ### Bytes -/

/-- The text of a byte can be split off in front. -/
theorem byteText_append_inj {m n : Nat} {r s : List Char} (hm : m < 256) (hn : n < 256)
    (h : hexText 2 m ++ r = hexText 2 n ++ s) : m = n ∧ r = s := by
  obtain ⟨htext, hrest⟩ := List.append_inj h ((length_byteText hm).trans (length_byteText hn).symm)
  exact ⟨hexText_injective 2 htext, hrest⟩

theorem bytesHex_injective : Function.Injective bytesHex := by
  intro bytes others h
  induction bytes generalizing others with
  | nil =>
    have hlength := length_bytesHex others
    rw [← h, bytesHex_nil, List.length_nil] at hlength
    exact (List.length_eq_zero_iff.mp (by omega)).symm
  | cons b bytes ih =>
    cases others with
    | nil =>
      have hlength := length_bytesHex (b :: bytes)
      rw [h, bytesHex_nil, List.length_nil, List.length_cons] at hlength
      omega
    | cons b' others =>
      rw [bytesHex_cons, bytesHex_cons] at h
      obtain ⟨hbyte, hrest⟩ := byteText_append_inj b.toNat_lt b'.toNat_lt h
      rw [UInt8.toNat_inj.mp hbyte, ih hrest]

end TanDialog.Numeral
