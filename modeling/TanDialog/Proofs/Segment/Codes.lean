import TanDialog.Segment.Codes
import TanDialog.Proofs.Text.Decimal
import TanDialog.Proofs.Text.Utf8

/-!
# The segment codes of a well-formed message

A body is a row of items: a plain byte, an escaped byte or a binary block. The walk over a message
that stands at the start of an item stands at the start of the next one behind it, whatever the
item holds (`segmentStarts_item`). So it meets the apostrophe that ends a segment and none before
it, and the codes of a message are those of its segments (`codes_flatMap`).
-/

namespace TanDialog.Segment

/-- A byte that is passed over alone, within a segment. -/
def IsPlain (b : UInt8) : Prop := b ≠ escape ∧ b ≠ binaryMark ∧ b ≠ terminator
deriving Decidable

/-- A part of a body that is read as a whole. -/
inductive Item
  | plain (b : UInt8) (isPlain : IsPlain b)
  | escaped (b : UInt8)
  | binary (digits : List Char) (data : List UInt8) (nonempty : digits ≠ [])
      (decimal : ∀ c ∈ digits, c.isDigit = true)
      (announced : Nat.ofDigitChars 10 digits 0 = data.length)
      (bounded : data.length < Numeral.bound64)

def Item.bytes : Item → List UInt8
  | plain b _ => [b]
  | escaped b => [escape, b]
  | binary digits data .. => binaryMark :: (digits.map Char.toUInt8 ++ binaryMark :: data)

/-- A well-formed segment. -/
structure Parts where
  code : String
  body : List Item
  code_plain : ∀ c ∈ code.toList, c ∉ ['+', ':', '\'', '?', '@']

def Parts.bytes (p : Parts) : List UInt8 :=
  Text.utf8 p.code ++ codeMark :: (p.body.flatMap Item.bytes ++ [terminator])

/-! ### Passing over an item -/

/-- Bytes that are to be passed over are, whatever they are. -/
theorem segmentStarts_unread (xs rest : List UInt8) :
    segmentStarts (.within xs.length) (xs ++ rest) = segmentStarts (.within 0) rest := by
  induction xs with
  | nil => rfl
  | cons x xs ih => exact ih

theorem segmentStarts_plain {b : UInt8} (h : IsPlain b) (rest : List UInt8) :
    segmentStarts (.within 0) (b :: rest) = segmentStarts (.within 0) rest := by
  obtain ⟨hescape, hbinary, hterminator⟩ := h
  have hextent : extent b rest = 0 := by rw [extent, if_neg hescape, if_neg hbinary]
  rw [segmentStarts, Position.next, if_neg hterminator, hextent]

theorem segmentStarts_of_forall_isPlain {bs : List UInt8} (h : ∀ b ∈ bs, IsPlain b)
    (rest : List UInt8) :
    segmentStarts (.within 0) (bs ++ rest) = segmentStarts (.within 0) rest := by
  induction bs with
  | nil => rfl
  | cons b bs ih =>
    rw [List.forall_mem_cons] at h
    rw [List.cons_append, segmentStarts_plain h.1, ih h.2]

theorem segmentStarts_escaped (b : UInt8) (rest : List UInt8) :
    segmentStarts (.within 0) (escape :: b :: rest) = segmentStarts (.within 0) rest := by
  have hnext : Position.next (.within 0) escape (b :: rest) = .within 1 := rfl
  rw [segmentStarts, hnext]
  exact segmentStarts_unread [b] rest

theorem ofNat_toNat_toUInt8 {c : Char} (h : c.isDigit = true) : Char.ofNat c.toUInt8.toNat = c := by
  have hle : c.toNat ≤ '9'.toNat := by
    rw [Char.isDigit, Bool.and_eq_true, decide_eq_true_eq, decide_eq_true_eq] at h
    exact h.2
  have hlt : c.toNat < 256 := Nat.lt_of_le_of_lt hle (by decide)
  have hbyte : c.toUInt8.toNat = c.toNat := Nat.mod_eq_of_lt hlt
  rw [hbyte, Char.ofNat_toNat]

theorem toUInt8_ne_binaryMark {c : Char} (h : c.isDigit = true) : c.toUInt8 ≠ binaryMark := by
  intro heq
  have hc := ofNat_toNat_toUInt8 h
  rw [heq] at hc
  exact absurd (hc ▸ h) (by decide)

/-- Behind a binary mark the digits of a number, the closing mark and as many bytes are passed over
as the number says. -/
theorem binaryExtent_of_isDigit {digits : List Char} (hne : digits ≠ [])
    (hdigits : ∀ c ∈ digits, c.isDigit = true)
    (hlt : Nat.ofDigitChars 10 digits 0 < Numeral.bound64) (rest : List UInt8) :
    binaryExtent (digits.map Char.toUInt8 ++ binaryMark :: rest) =
      digits.length + 1 + Nat.ofDigitChars 10 digits 0 := by
  have htake : (digits.map Char.toUInt8 ++ binaryMark :: rest).takeWhile (· ≠ binaryMark) =
      digits.map Char.toUInt8 := by
    rw [List.takeWhile_append_of_pos, List.takeWhile_cons_of_neg (by simp), List.append_nil]
    intro b hb
    obtain ⟨c, hc, rfl⟩ := List.mem_map.mp hb
    exact decide_eq_true (toUInt8_ne_binaryMark (hdigits c hc))
  have hmap : (digits.map Char.toUInt8).map (fun b => Char.ofNat b.toNat) = digits := by
    rw [List.map_map]
    exact (List.map_congr_left fun c hc => ofNat_toNat_toUInt8 (hdigits c hc)).trans digits.map_id
  have hlength : (digits.map Char.toUInt8).length <
      (digits.map Char.toUInt8 ++ binaryMark :: rest).length := by
    rw [List.length_append, List.length_cons]
    omega
  rw [binaryExtent, htake, if_pos hlength, hmap, Numeral.decimal?_of_isDigit hne hdigits hlt,
    List.length_map]

theorem segmentStarts_binary {digits : List Char} {data : List UInt8} (hne : digits ≠ [])
    (hdigits : ∀ c ∈ digits, c.isDigit = true)
    (hdata : Nat.ofDigitChars 10 digits 0 = data.length) (hlt : data.length < Numeral.bound64)
    (rest : List UInt8) :
    segmentStarts (.within 0)
        (binaryMark :: (digits.map Char.toUInt8 ++ binaryMark :: (data ++ rest))) =
      segmentStarts (.within 0) rest := by
  have hextent := binaryExtent_of_isDigit hne hdigits (hdata ▸ hlt) (data ++ rest)
  have hnext : Position.next (.within 0) binaryMark
      (digits.map Char.toUInt8 ++ binaryMark :: (data ++ rest)) =
        .within (digits.map Char.toUInt8 ++ binaryMark :: data).length := by
    have hlength : (digits.map Char.toUInt8 ++ binaryMark :: data).length =
        digits.length + 1 + data.length := by
      rw [List.length_append, List.length_map, List.length_cons]
      omega
    rw [hlength, ← hdata, ← hextent]
    rfl
  rw [segmentStarts, hnext, ← List.cons_append, ← List.append_assoc]
  exact segmentStarts_unread _ rest

/-- The walk stands behind an item as it stood before it. -/
theorem segmentStarts_item (i : Item) (rest : List UInt8) :
    segmentStarts (.within 0) (i.bytes ++ rest) = segmentStarts (.within 0) rest := by
  cases i with
  | plain b isPlain => exact segmentStarts_plain isPlain rest
  | escaped b => exact segmentStarts_escaped b rest
  | binary digits data nonempty decimal announced bounded =>
    rw [Item.bytes, List.cons_append, List.append_assoc, List.cons_append]
    exact segmentStarts_binary nonempty decimal announced bounded rest

theorem segmentStarts_body (body : List Item) (rest : List UInt8) :
    segmentStarts (.within 0) (body.flatMap Item.bytes ++ rest) =
      segmentStarts (.within 0) rest := by
  induction body with
  | nil => rfl
  | cons i body ih => rw [List.flatMap_cons, List.append_assoc, segmentStarts_item, ih]

/-! ### Segments -/

/-- The first byte of a segment is passed over unseen, and plain ones behind it as elsewhere. -/
theorem segmentStarts_head {bs : List UInt8} (hne : bs ≠ []) (h : ∀ b ∈ bs, IsPlain b)
    (rest : List UInt8) :
    segmentStarts .start (bs ++ rest) = (bs ++ rest) :: segmentStarts (.within 0) rest := by
  cases bs with
  | nil => exact absurd rfl hne
  | cons b bs =>
    rw [List.forall_mem_cons] at h
    obtain ⟨⟨-, -, hterminator⟩, hplain⟩ := h
    rw [List.cons_append, segmentStarts, Position.next, if_neg hterminator,
      segmentStarts_of_forall_isPlain hplain]

namespace Parts

variable (p : Parts)

/-- No byte of a code has a special meaning, those of longer characters included. -/
theorem isPlain_of_mem_utf8_code {b : UInt8} (h : b ∈ Text.utf8 p.code) :
    IsPlain b ∧ b ≠ codeMark := by
  have hne : ∀ m : UInt8, m.toNat < 0x80 →
      Char.ofNat m.toNat ∈ ['+', ':', '\'', '?', '@'] → b ≠ m := by
    rintro m hascii hm rfl
    exact p.code_plain _ (Text.ofNat_mem_of_mem_utf8 h hascii) hm
  exact ⟨⟨hne _ (by decide) (by decide), hne _ (by decide) (by decide),
    hne _ (by decide) (by decide)⟩, hne _ (by decide) (by decide)⟩

/-- A segment starts at its first byte, and the next one behind its last. -/
theorem segmentStarts_bytes (rest : List UInt8) :
    segmentStarts .start (p.bytes ++ rest) = (p.bytes ++ rest) :: segmentStarts .start rest := by
  -- where the code is empty, the colon is the first byte
  have hhead : ∀ b ∈ Text.utf8 p.code ++ [codeMark], IsPlain b := by
    intro b hb
    rcases List.mem_append.mp hb with hb | hb
    · exact (p.isPlain_of_mem_utf8_code hb).1
    · rw [List.mem_singleton.mp hb]
      decide
  have hbytes : p.bytes ++ rest = (Text.utf8 p.code ++ [codeMark]) ++
      (p.body.flatMap Item.bytes ++ terminator :: rest) := by
    simp only [bytes, List.append_assoc, List.cons_append, List.nil_append]
  have hend : segmentStarts (.within 0) (terminator :: rest) = segmentStarts .start rest := rfl
  rw [hbytes, segmentStarts_head (by simp) hhead, segmentStarts_body, hend]

theorem codeBytes?_bytes (rest : List UInt8) :
    codeBytes? (p.bytes ++ rest) = some (Text.utf8 p.code) := by
  have hbytes : p.bytes ++ rest =
      Text.utf8 p.code ++ codeMark :: (p.body.flatMap Item.bytes ++ terminator :: rest) := by
    simp only [bytes, List.append_assoc, List.cons_append, List.nil_append]
  have hmark : (p.bytes ++ rest).contains codeMark = true := by
    rw [hbytes, List.contains_iff_mem]
    exact List.mem_append_right _ List.mem_cons_self
  have htake : (p.bytes ++ rest).takeWhile (· ≠ codeMark) = Text.utf8 p.code := by
    rw [hbytes, List.takeWhile_append_of_pos, List.takeWhile_cons_of_neg (by simp),
      List.append_nil]
    exact fun b hb => decide_eq_true (p.isPlain_of_mem_utf8_code hb).2
  rw [codeBytes?, if_pos hmark, htake]

end Parts

/-- The codes of a row of well-formed segments are those of the segments, in order. -/
theorem codes_flatMap (segments : List Parts) :
    codes (segments.flatMap Parts.bytes) = segments.map Parts.code := by
  have hcodes : (segmentStarts .start (segments.flatMap Parts.bytes)).filterMap codeBytes? =
      segments.map fun p => Text.utf8 p.code := by
    induction segments with
    | nil => rfl
    | cons p segments ih =>
      rw [List.flatMap_cons, p.segmentStarts_bytes, List.filterMap_cons_some (p.codeBytes?_bytes _),
        ih, List.map_cons]
  rw [codes, hcodes, List.map_map]
  exact List.map_congr_left fun p _ => Text.decodeLossy_utf8 p.code

/-- A segment with an escaped apostrophe and with binary data that look like another segment. -/
def identification : Parts where
  code := "HKIDN"
  body := [.plain 0x2b (by decide), .escaped terminator,
    .binary ['0', '4'] [terminator, 0x48, codeMark, escape] (by simp) (by simp) (by decide)
      (by decide)]
  code_plain := by simp

/-- A segment without anything that has to be passed over as a whole. -/
def closing : Parts where
  code := "HNHBS"
  body := [.plain 0x34 (by decide)]
  code_plain := by simp

theorem codes_identification_closing :
    codes (Text.utf8 "HKIDN:+?'@04@'H:?'HNHBS:4'") = ["HKIDN", "HNHBS"] := by
  have hbytes : [identification, closing].flatMap Parts.bytes =
      Text.utf8 "HKIDN:+?'@04@'H:?'HNHBS:4'" := by decide
  rw [← hbytes]
  exact codes_flatMap [identification, closing]

end TanDialog.Segment
