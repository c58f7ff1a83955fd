import Mathlib.Data.List.Basic
import TanDialog.Text.Bytes

/-!
# Texts and their bytes

The bytes of a text decode to the text (`Text.decodeLossy_utf8`): the first byte of a character says
how many bytes follow and how far the second one may go, and the bytes of a character stay within
that. No byte of a text is an ASCII byte but those that are ASCII characters themselves
(`Text.ofNat_mem_of_mem_utf8`).
-/

namespace TanDialog.Text

deriving instance DecidableEq for Pending

theorem utf8_eq (s : String) : utf8 s = s.toList.flatMap String.utf8EncodeChar := by
  conv => lhs; rw [← String.ofList_toList (s := s)]
  rw [utf8, String.toUTF8_eq_toByteArray, String.toByteArray_ofList, List.utf8Encode,
    List.data_toByteArray, List.toList_toArray]

/-! ### First bytes -/

theorem startByte_one {n : Nat} (h : n < 0x80) :
    startByte (UInt8.ofNat n) = ([Char.ofNat n], none) := by
  have hbyte : (UInt8.ofNat n).toNat = n := UInt8.toNat_ofNat_of_lt' (Nat.lt_trans h (by decide))
  have hlow : UInt8.ofNat n < 0x80 := UInt8.lt_iff_toNat_lt.mpr (by rw [hbyte]; exact h)
  rw [startByte, if_pos hlow, hbyte]

theorem startByte_two : ∀ n < 32, 2 ≤ n →
    startByte (UInt8.ofNat (n + 0xc0)) = ([], some ⟨n, 1, 0x80, 0xbf⟩) := by decide

/-- The second byte of a character of three bytes is not below that of the first character that
needs three, and does not reach the surrogates. -/
theorem startByte_three : ∀ n < 16, startByte (UInt8.ofNat (n + 0xe0)) =
    ([], some ⟨n, 2, if n = 0 then 0xa0 else 0x80, if n = 0xd then 0x9f else 0xbf⟩) := by decide

/-- The second byte of a character of four bytes is not below that of the first character that needs
four, and does not go beyond the last character. -/
theorem startByte_four : ∀ n < 5, startByte (UInt8.ofNat (n + 0xf0)) =
    ([], some ⟨n, 3, if n = 0 then 0x90 else 0x80, if n = 4 then 0x8f else 0xbf⟩) := by decide

/-! ### Further bytes -/

/-- The last byte of a character adds its six bits. -/
theorem decodeFrom_last {bits n : Nat} {low high : UInt8} (hlow : low.toNat ≤ n + 0x80)
    (hhigh : n + 0x80 ≤ high.toNat) (rest : List UInt8) :
    decodeFrom (some ⟨bits, 1, low, high⟩) (UInt8.ofNat (n + 0x80) :: rest) =
      Char.ofNat (64 * bits + n) :: decodeFrom none rest := by
  have hbyte : (UInt8.ofNat (n + 0x80)).toNat = n + 0x80 :=
    UInt8.toNat_ofNat_of_lt' (Nat.lt_of_le_of_lt hhigh high.toNat_lt)
  have hrange : low ≤ UInt8.ofNat (n + 0x80) ∧ UInt8.ofNat (n + 0x80) ≤ high := by
    rw [UInt8.le_iff_toNat_le, UInt8.le_iff_toNat_le, hbyte]
    exact ⟨hlow, hhigh⟩
  have hnext : Pending.next ⟨bits, 1, low, high⟩ (UInt8.ofNat (n + 0x80)) =
      ([Char.ofNat (64 * bits + n)], none) := by
    rw [Pending.next, if_pos hrange, hbyte, Nat.add_sub_cancel]
    rfl
  rw [decodeFrom, hnext]
  rfl

/-- A byte in the middle of a character adds its six bits, and any byte may follow that goes on. -/
theorem decodeFrom_more {bits missing n : Nat} {low high : UInt8} (hlow : low.toNat ≤ n + 0x80)
    (hhigh : n + 0x80 ≤ high.toNat) (rest : List UInt8) :
    decodeFrom (some ⟨bits, missing + 2, low, high⟩) (UInt8.ofNat (n + 0x80) :: rest) =
      decodeFrom (some ⟨64 * bits + n, missing + 1, 0x80, 0xbf⟩) rest := by
  have hbyte : (UInt8.ofNat (n + 0x80)).toNat = n + 0x80 :=
    UInt8.toNat_ofNat_of_lt' (Nat.lt_of_le_of_lt hhigh high.toNat_lt)
  have hrange : low ≤ UInt8.ofNat (n + 0x80) ∧ UInt8.ofNat (n + 0x80) ≤ high := by
    rw [UInt8.le_iff_toNat_le, UInt8.le_iff_toNat_le, hbyte]
    exact ⟨hlow, hhigh⟩
  have hnext : Pending.next ⟨bits, missing + 2, low, high⟩ (UInt8.ofNat (n + 0x80)) =
      ([], some ⟨64 * bits + n, missing + 1, 0x80, 0xbf⟩) := by
    rw [Pending.next, if_pos hrange, hbyte, Nat.add_sub_cancel]
    exact if_neg (by simp)
  rw [decodeFrom, hnext]
  rfl

/-! ### Whole characters -/

/-- The bytes of a character decode to it, whatever follows. -/
theorem decodeFrom_utf8EncodeChar (c : Char) (rest : List UInt8) :
    decodeFrom none (String.utf8EncodeChar c ++ rest) = c :: decodeFrom none rest := by
  have hvalid : c.val.toNat < 0xd800 ∨ 0xdfff < c.val.toNat ∧ c.val.toNat < 0x110000 := c.valid
  have hchar : ∀ {n : Nat}, n = c.val.toNat → Char.ofNat n = c := by
    rintro n rfl
    exact Char.ofNat_toNat c
  have hlow : ∀ n : Nat, (0x80 : UInt8).toNat ≤ n + 0x80 := fun n => Nat.le_add_left _ n
  have hhigh : ∀ {n : Nat}, n < 64 → n + 0x80 ≤ (0xbf : UInt8).toNat := by
    intro n hn
    have hbf : (0xbf : UInt8).toNat = 0xbf := rfl
    omega
  unfold String.utf8EncodeChar
  dsimp only
  generalize c.val.toNat = v at hchar hvalid
  by_cases hone : v ≤ 0x7f
  · rw [if_pos hone]
    simp only [List.cons_append, List.nil_append, decodeFrom,
      startByte_one (Nat.lt_succ_of_le hone), hchar rfl]
  rw [if_neg hone]
  by_cases htwo : v ≤ 0x7ff
  · rw [if_pos htwo]
    simp only [List.cons_append, List.nil_append]
    rw [decodeFrom, startByte_two (v / 64 % 32) (by omega) (by omega),
      decodeFrom_last (hlow _) (hhigh (by omega)), hchar (by omega)]
    rfl
  rw [if_neg htwo]
  by_cases hthree : v ≤ 0xffff
  · rw [if_pos hthree]
    simp only [List.cons_append, List.nil_append]
    -- neither the characters of two bytes nor the surrogates are encoded in three
    have hlow' : (if v / 4096 % 16 = 0 then 0xa0 else 0x80 : UInt8).toNat ≤ v / 64 % 64 + 0x80 := by
      split
      · have ha0 : (0xa0 : UInt8).toNat = 0xa0 := rfl
        omega
      · exact hlow _
    have hhigh' :
        v / 64 % 64 + 0x80 ≤ (if v / 4096 % 16 = 0xd then 0x9f else 0xbf : UInt8).toNat := by
      split
      · have h9f : (0x9f : UInt8).toNat = 0x9f := rfl
        omega
      · exact hhigh (by omega)
    rw [decodeFrom, startByte_three (v / 4096 % 16) (by omega), decodeFrom_more hlow' hhigh',
      decodeFrom_last (hlow _) (hhigh (by omega)), hchar (by omega)]
    rfl
  · rw [if_neg hthree]
    simp only [List.cons_append, List.nil_append]
    have hlow' :
        (if v / 262144 % 8 = 0 then 0x90 else 0x80 : UInt8).toNat ≤ v / 4096 % 64 + 0x80 := by
      split
      · have h90 : (0x90 : UInt8).toNat = 0x90 := rfl
        omega
      · exact hlow _
    have hhigh' :
        v / 4096 % 64 + 0x80 ≤ (if v / 262144 % 8 = 4 then 0x8f else 0xbf : UInt8).toNat := by
      split
      · have h8f : (0x8f : UInt8).toNat = 0x8f := rfl
        omega
      · exact hhigh (by omega)
    rw [decodeFrom, startByte_four (v / 262144 % 8) (by omega), decodeFrom_more hlow' hhigh',
      decodeFrom_more (hlow _) (hhigh (by omega)), decodeFrom_last (hlow _) (hhigh (by omega)),
      hchar (by omega)]
    rfl

/-- The bytes of a text decode to the text. -/
theorem decodeLossy_utf8 (s : String) : decodeLossy (utf8 s) = s := by
  have hchars : ∀ cs : List Char, decodeFrom none (cs.flatMap String.utf8EncodeChar) = cs := by
    intro cs
    induction cs with
    | nil => rfl
    | cons c cs ih => rw [List.flatMap_cons, decodeFrom_utf8EncodeChar, ih]
  rw [decodeLossy, utf8_eq, hchars, String.ofList_toList]

/-- An ASCII byte of a text is a character of the text. -/
theorem ofNat_mem_of_mem_utf8 {s : String} {b : UInt8} (h : b ∈ utf8 s) (hascii : b.toNat < 0x80) :
    Char.ofNat b.toNat ∈ s.toList := by
  rw [utf8_eq, List.mem_flatMap] at h
  obtain ⟨c, hc, hb⟩ := h
  have hhigh : ∀ {n : Nat}, 0x80 ≤ n → n < 256 → b ≠ UInt8.ofNat n := by
    rintro n hn hlt rfl
    rw [UInt8.toNat_ofNat_of_lt' hlt] at hascii
    omega
  suffices hchar : Char.ofNat b.toNat = c from hchar ▸ hc
  unfold String.utf8EncodeChar at hb
  dsimp only at hb
  split at hb
  case isTrue hone =>
    have hlt : c.val.toNat < 256 := Nat.lt_of_le_of_lt hone (by decide)
    rw [List.mem_singleton.mp hb, UInt8.toNat_ofNat_of_lt' hlt]
    exact Char.ofNat_toNat c
  case isFalse =>
    -- all bytes of a longer character have their high bit set
    exfalso
    split at hb
    · simp only [List.mem_cons, List.not_mem_nil, or_false] at hb
      rcases hb with hb | hb <;> exact hhigh (by omega) (by omega) hb
    · split at hb
      · simp only [List.mem_cons, List.not_mem_nil, or_false] at hb
        rcases hb with hb | hb | hb <;> exact hhigh (by omega) (by omega) hb
      · simp only [List.mem_cons, List.not_mem_nil, or_false] at hb
        rcases hb with hb | hb | hb | hb <;> exact hhigh (by omega) (by omega) hb

end TanDialog.Text
