import TanDialog.Proofs.Flicker.Reading
import TanDialog.Proofs.Text.Hexadecimal

/-!
# What a code shows, part by part

An element of ASCII characters is shown in whole bytes (`length_renderData`), from which it can be
told whatever its kind (`renderData_injective`). The length in front of it has two digits but for
one kind of element: in the earlier format a length is written with its flag as a digit of its own,
and so the length of an element of sixteen characters or more that is not shown as digits has three
(`Wide`, `length_renderLength`). In the later format the flag is added to the length, which has room
for every element below 64 bytes (`lengthByte_lt`).
-/

namespace TanDialog.Flicker

open Numeral

variable {data : List Char}

/-! ### Data -/

theorem length_flatMap_hexText (h : ∀ char ∈ data, char.toNat < 128) :
    (data.flatMap fun char => hexText 2 char.toNat).length = 2 * data.length := by
  induction data with
  | nil => rfl
  | cons char data ih =>
    have hchar : (hexText 2 char.toNat).length = 2 :=
      length_byteText (Nat.lt_trans (h char List.mem_cons_self) (by decide))
    rw [List.flatMap_cons, List.length_append, hchar,
      ih fun char hmem => h char (List.mem_cons_of_mem _ hmem), List.length_cons]
    omega

theorem length_renderData_of_isNumeric (h : isNumeric data = true) :
    (renderData data).length = 2 * ((data.length + 1) / 2) := by
  rw [renderData, if_pos h]
  split
  case isTrue hodd =>
    rw [List.length_append, List.length_singleton]
    omega
  case isFalse heven => omega

theorem dataBytes_of_isNumeric (h : isNumeric data = true) :
    dataBytes data = (data.length + 1) / 2 := by
  rw [dataBytes, length_renderData_of_isNumeric h]
  omega

theorem renderData_of_not_isNumeric (h : isNumeric data = false) :
    renderData data = data.flatMap fun char => hexText 2 char.toNat := by
  rw [renderData, h, if_neg Bool.false_ne_true]

theorem dataBytes_of_not_isNumeric (h : isNumeric data = false)
    (hascii : ∀ char ∈ data, char.toNat < 128) : dataBytes data = data.length := by
  rw [dataBytes, renderData_of_not_isNumeric h, length_flatMap_hexText hascii]
  omega

/-- Data is shown in whole bytes. -/
theorem length_renderData (hascii : ∀ char ∈ data, char.toNat < 128) :
    (renderData data).length = 2 * dataBytes data := by
  cases h : isNumeric data with
  | true => rw [length_renderData_of_isNumeric h, dataBytes_of_isNumeric h]
  | false =>
    rw [dataBytes_of_not_isNumeric h hascii, renderData_of_not_isNumeric h,
      length_flatMap_hexText hascii]

/-- There are no more bytes than characters. -/
theorem dataBytes_le (hascii : ∀ char ∈ data, char.toNat < 128) : dataBytes data ≤ data.length := by
  cases h : isNumeric data with
  | true =>
    have hne : data.length ≠ 0 := by
      rintro hzero
      rw [List.eq_nil_of_length_eq_zero hzero] at h
      cases h
    rw [dataBytes_of_isNumeric h]
    omega
  | false => exact Nat.le_of_eq (dataBytes_of_not_isNumeric h hascii)

/-! ### Reading the data back -/

/-- The padding is no digit: what is left without it is the data. -/
theorem filter_isDigit_renderData (h : isNumeric data = true) :
    (renderData data).filter Char.isDigit = data := by
  have hdigits : data.filter Char.isDigit = data := by
    rw [isNumeric, Bool.and_eq_true, List.all_eq_true] at h
    exact List.filter_eq_self.mpr h.2
  have hpadding : ['F'].filter Char.isDigit = [] := by decide
  rw [renderData, if_pos h]
  split
  · rw [List.filter_append, hdigits, hpadding, List.append_nil]
  · exact hdigits

theorem flatMap_hexText_injective {other : List Char} (hdata : ∀ char ∈ data, char.toNat < 128)
    (hother : ∀ char ∈ other, char.toNat < 128)
    (h : (data.flatMap fun char => hexText 2 char.toNat) =
      other.flatMap fun char => hexText 2 char.toNat) : data = other := by
  have hlength : ∀ {char : Char}, char.toNat < 128 → (hexText 2 char.toNat).length = 2 :=
    fun hchar => length_byteText (Nat.lt_trans hchar (by decide))
  induction data generalizing other with
  | nil =>
    cases other with
    | nil => rfl
    | cons d other => exact absurd (List.append_eq_nil_iff.mp h.symm).1 (hexText_ne_nil _ _)
  | cons c data ih =>
    cases other with
    | nil => exact absurd (List.append_eq_nil_iff.mp h).1 (hexText_ne_nil _ _)
    | cons d other =>
      rw [List.forall_mem_cons] at hdata hother
      obtain ⟨hhead, htail⟩ :=
        List.append_inj h ((hlength hdata.1).trans (hlength hother.1).symm)
      rw [Char.toNat_inj.mp (hexText_injective 2 hhead), ih hdata.2 hother.2 htail]

/-- Data of one kind can be told from what is shown. -/
theorem renderData_injective {other : List Char} (hdata : ∀ char ∈ data, char.toNat < 128)
    (hother : ∀ char ∈ other, char.toNat < 128) (hkind : isNumeric data = isNumeric other)
    (h : renderData data = renderData other) : data = other := by
  cases hnumeric : isNumeric data with
  | true =>
    rw [← filter_isDigit_renderData hnumeric, h, filter_isDigit_renderData (hkind ▸ hnumeric)]
  | false =>
    rw [renderData_of_not_isNumeric hnumeric, renderData_of_not_isNumeric (hkind ▸ hnumeric)] at h
    exact flatMap_hexText_injective hdata hother h

/-! ### Lengths -/

/-- An element whose length does not fit into two digits. -/
def Wide (format : Format) (data : List Char) : Prop :=
  format = .hhd13 ∧ isNumeric data = false ∧ 16 ≤ data.length

instance (format : Format) (data : List Char) : Decidable (Wide format data) :=
  inferInstanceAs (Decidable (_ ∧ _))

/-- The length in front of an element of the later format: 64 is added where the element is not
shown as digits. -/
def lengthByte (data : List Char) : Nat := dataBytes data + if isNumeric data then 0 else 64

theorem lengthByte_lt (h : Plain data) : lengthByte data < 128 := by
  have hle := dataBytes_le h.ascii
  have hshort := h.short
  rw [lengthByte]
  split <;> omega

theorem renderLength_hhd14 (data : List Char) :
    renderLength .hhd14 data = hexText 2 (lengthByte data) := by
  rw [renderLength, lengthByte]
  split <;> rfl

/-- A length has two digits, and three where it is wide. -/
theorem length_renderLength {format : Format} (h : Plain data) :
    (renderLength format data).length = 2 + if Wide format data then 1 else 0 := by
  have hle := dataBytes_le h.ascii
  have hshort := h.short
  cases hformat : format with
  | hhd14 =>
    have hnarrow : ¬Wide .hhd14 data := fun hwide => nomatch hwide.1
    have hbyte := lengthByte_lt h
    rw [renderLength_hhd14, length_byteText (by omega), if_neg hnarrow]
  | hhd13 =>
    cases hnumeric : isNumeric data with
    | true =>
      have hnarrow : ¬Wide .hhd13 data := fun hwide =>
        Bool.false_ne_true (hwide.2.1.symm.trans hnumeric)
      rw [renderLength, if_pos hnumeric, length_byteText (by omega), if_neg hnarrow]
    | false =>
      rw [renderLength, hnumeric, if_neg Bool.false_ne_true, List.length_cons,
        dataBytes_of_not_isNumeric hnumeric h.ascii]
      have hone := @length_hexText_le_iff 1 1 data.length (by decide)
      have htwo := @length_hexText_le_iff 1 2 data.length (by decide)
      have hpos := length_hexText_pos 1 data.length
      split
      case isTrue hwide =>
        have hlong := hwide.2.2
        omega
      case isFalse hnarrow =>
        have hfits : data.length < 16 :=
          Nat.lt_of_not_le fun hlong => hnarrow ⟨rfl, hnumeric, hlong⟩
        omega

namespace Code

variable {c : Code}

/-- The length in front of the start code in the later format: 128 is added where control bytes
follow. -/
def startByte (c : Code) : Nat :=
  lengthByte c.startCode + if c.controlBytes.isEmpty then 0 else 128

theorem renderStartLength_hhd14 (hformat : c.format = .hhd14) (h : Plain c.startCode) :
    c.renderStartLength = hexText 2 c.startByte := by
  have hlt : lengthByte c.startCode < bound64 :=
    Nat.lt_trans (lengthByte_lt h) (by decide)
  rw [renderStartLength, showsControlBytes, startByte, hformat, renderLength_hhd14]
  cases c.controlBytes.isEmpty with
  | true => rfl
  | false => rw [hexadecimal?_hexText 2 hlt]; rfl

theorem startByte_lt (h : Plain c.startCode) : c.startByte < 256 := by
  have hlt := lengthByte_lt h
  rw [startByte]
  split <;> omega

/-- The start code has the length in front of it that an element of its data would have. -/
theorem length_renderStartLength (h : Plain c.startCode) :
    c.renderStartLength.length = 2 + if Wide c.format c.startCode then 1 else 0 := by
  cases hformat : c.format with
  | hhd14 =>
    rw [renderStartLength_hhd14 hformat h, length_byteText (startByte_lt h),
      if_neg fun hwide => nomatch hwide.1]
  | hhd13 =>
    have hplain : c.renderStartLength = renderLength .hhd13 c.startCode := by
      rw [renderStartLength, showsControlBytes, hformat]
      rfl
    rw [hplain, length_renderLength h]

/-! ### Check digits -/

theorem digitValues_lt {digits : List Char} {d : Nat} (h : d ∈ digitValues digits) : d < 16 := by
  obtain ⟨char, -, hdigit⟩ := List.mem_filterMap.mp h
  unfold digit? at hdigit
  simpa using (Option.filter_eq_some_iff.mp hdigit).2

theorem length_luhnDigit (c : Code) : c.luhnDigit.length = 1 :=
  (length_hexText_eq_iff (by decide)).mpr
    (Nat.lt_trans (Nat.mod_lt _ (by decide)) (by decide))

theorem foldl_xor_lt {digits : List Nat} {n : Nat} (hn : n < 16) (h : ∀ d ∈ digits, d < 16) :
    digits.foldl (· ^^^ ·) n < 16 := by
  induction digits generalizing n with
  | nil => exact hn
  | cons d digits ih =>
    rw [List.forall_mem_cons] at h
    exact ih (Nat.xor_lt_two_pow (n := 4) hn h.1) h.2

theorem length_xorDigit (c : Code) : c.xorDigit.length = 1 :=
  (length_hexText_eq_iff (by decide)).mpr (foldl_xor_lt (by decide) fun _ => digitValues_lt)

end Code

end TanDialog.Flicker
