import Mathlib.Algebra.Ring.Nat
import TanDialog.Proofs.Flicker.Layout
import TanDialog.Proofs.Text.Decimal

/-!
# What a payload that reads is like

Whatever the texts of its fields, a payload that reads has regular parts: all of them consist of
ASCII characters, each is shorter than 64 characters, the control bytes end as their high bits say,
and the parts do not exceed the length that the payload declares, which has no more than two or
three digits (`Code.Regular`, `Code.regular_of_readAs`).
-/

namespace TanDialog

namespace Flicker

/-! ### Payloads -/

/-- Data that fits the length of an element. -/
structure Plain (data : List Char) : Prop where
  ascii : ∀ char ∈ data, char.toNat < 128
  short : data.length < 64

/-- What holds of the parts of every payload that reads: the start code and the elements are
plain, the control bytes end as they have to, and the parts are as long as the payload declares,
counting the start length and the length in front of each element. -/
structure Code.Regular (c : Code) : Prop where
  declared : c.length < 10 ^ c.format.lengthDigits
  plain : ∀ data ∈ c.startCode :: c.elements, Plain data
  control : c.controlBytes = [] ∨
    c.format = .hhd14 ∧ Reader.ControlSeries Reader.maxControlBytes c.controlBytes
  size : c.length = 2 + 2 * c.controlBytes.length + c.startCode.length +
    (c.elements.map fun data => data.length + 2).sum + c.rest.length

/-! ### The size of a layout -/

theorem length_flatten_of_isByteField {fields : List (List Char)} {bytes : List UInt8}
    (h : List.Forall₂ IsByteField fields bytes) : fields.flatten.length = 2 * bytes.length := by
  induction h with
  | nil => rfl
  | cons hfield _ ih =>
    rw [List.flatten_cons, List.length_append, hfield.length_eq, ih, List.length_cons]
    omega

theorem length_flatten_of_isLengthField {fields parts : List (List Char)}
    (h : List.Forall₂ IsLengthField fields parts) :
    (List.zipWith (· ++ ·) fields parts).flatten.length =
      (parts.map fun data => data.length + 2).sum := by
  induction h with
  | nil => rfl
  | cons hfield _ ih =>
    obtain ⟨n, hn, -⟩ := hfield
    rw [List.zipWith_cons_cons, List.flatten_cons, List.length_append, List.length_append,
      hn.length_eq, ih, List.map_cons, List.sum_cons]
    omega

theorem short_of_isLengthField {fields parts : List (List Char)}
    (h : List.Forall₂ IsLengthField fields parts) : ∀ data ∈ parts, data.length < 64 := by
  induction h with
  | nil => exact nofun
  | cons hfield _ ih =>
    obtain ⟨n, -, hlength⟩ := hfield
    exact List.forall_mem_cons.mpr ⟨hlength ▸ Nat.mod_lt n (by decide), ih⟩

theorem subset_flatten_zipWith {fields parts : List (List Char)}
    (h : List.Forall₂ IsLengthField fields parts) :
    ∀ data ∈ parts, data ⊆ (List.zipWith (· ++ ·) fields parts).flatten := by
  induction h with
  | nil => exact nofun
  | @cons field data fields parts _ _ ih =>
    rw [List.zipWith_cons_cons, List.flatten_cons]
    exact List.forall_mem_cons.mpr
      ⟨List.subset_append_of_subset_left _ (List.subset_append_right field data),
        fun part hpart => List.subset_append_of_subset_right _ (ih part hpart)⟩

/-- A code that has a layout of ASCII characters is regular. -/
theorem Layout.Describes.regular {l : Layout} {c : Code} (h : l.Describes c)
    (hascii : ∀ char ∈ l.text c, char.toNat < 128) : c.Regular := by
  obtain ⟨n, hn, hstart, hflag⟩ := h.start
  have hparts : c.startCode ⊆ l.text c ∧ ∀ data ∈ c.elements, data ⊆ l.text c := by
    simp only [Layout.text, Layout.body]
    refine ⟨fun char hchar => by simp [hchar], fun data hdata char hchar => ?_⟩
    have hmem := subset_flatten_zipWith h.elements data hdata hchar
    simp only [List.mem_append]
    exact .inr (.inr (.inr (.inr (.inl hmem))))
  constructor
  · have hlt := Numeral.decimal?_lt h.total.read_eq
    rwa [h.total.length_eq] at hlt
  · intro data hdata
    rcases List.mem_cons.mp hdata with rfl | hdata
    · exact ⟨fun char hchar => hascii char (hparts.1 hchar), hstart ▸ Nat.mod_lt n (by decide)⟩
    · exact ⟨fun char hchar => hascii char (hparts.2 data hdata hchar),
        short_of_isLengthField h.elements data hdata⟩
  · split at hflag
    case isTrue hannounced =>
      exact .inr ⟨hannounced.1, (Reader.controlSeries_iff (by decide)).mpr hflag⟩
    case isFalse => exact .inl hflag
  · have hlength := h.length_eq
    rw [Layout.body, List.length_append, hn.length_eq, List.length_append,
      length_flatten_of_isByteField h.control, List.length_append, List.length_append,
      length_flatten_of_isLengthField h.elements] at hlength
    omega

namespace Code

instance decidableReads (c : Code) : (result : Except Error Code) → Decidable (result = .ok c)
  | .ok code => decidable_of_iff (code = c) (Except.ok.injEq code c).symm.to_iff
  | .error _ => isFalse nofun

variable {text : List Char} {c : Code}

/-- What reads in a format is regular and of that format. -/
theorem regular_of_readAs {format : Format} (h : readAs format text = .ok c) :
    c.format = format ∧ c.Regular := by
  obtain ⟨hformat, hascii, l, hl, htext⟩ := readAs_eq_ok_iff.mp h
  exact ⟨hformat, hl.regular (htext ▸ hascii)⟩

theorem regular_of_read (h : read text = .ok c) : c.Regular := by
  unfold read at h
  split at h
  case h_1 hread =>
    cases h
    exact (regular_of_readAs hread).2
  case h_2 => exact (regular_of_readAs h).2

end Code

end Flicker

end TanDialog
