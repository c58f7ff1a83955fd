import TanDialog.Proofs.Flicker.Rendering

/-!
# The frame of a shown code

A shown code is framed if it consists of whole bytes, if the first one counts those that follow it,
and if every length within it is a byte too. The digits are hexadecimal in any case
(`Code.isHexDigit_of_mem_render`), but a length can outgrow its byte. In the earlier format that of
an element can, if the element is wide; in the later one that of the whole code can, if it has 255
bytes or more between the first one and the check digits. `Code.render_framed_iff` says what holds
of the code in these cases: with a length of three digits there is half a byte too much, unless a
second one makes up for it.
-/

namespace TanDialog.Flicker

open Numeral

/-! ### Digits -/

theorem isHexDigit_of_mem_renderData {data : List Char} {d : Char} (h : d ∈ renderData data) :
    IsHexDigit d := by
  cases hnumeric : isNumeric data with
  | true =>
    have hpad : d ∈ data ++ ['F'] := by
      rw [renderData, if_pos hnumeric] at h
      split at h
      · exact h
      · exact List.mem_append_left _ h
    rw [isNumeric, Bool.and_eq_true, List.all_eq_true] at hnumeric
    rcases List.mem_append.mp hpad with hdata | hF
    · exact isHexDigit_of_isDigit (hnumeric.2 d hdata)
    · rw [List.mem_singleton.mp hF]
      decide
  | false =>
    rw [renderData_of_not_isNumeric hnumeric] at h
    obtain ⟨_, -, hd⟩ := List.mem_flatMap.mp h
    exact isHexDigit_of_mem_hexText hd

theorem isHexDigit_of_mem_renderLength {format : Format} {data : List Char} {d : Char}
    (h : d ∈ renderLength format data) : IsHexDigit d := by
  unfold renderLength at h
  split at h
  · exact isHexDigit_of_mem_hexText h
  · split at h
    case h_1 => exact isHexDigit_of_mem_hexText h
    case h_2 =>
      rcases List.mem_cons.mp h with rfl | h
      · decide
      · exact isHexDigit_of_mem_hexText h

theorem isHexDigit_of_mem_bytesHex {bytes : List UInt8} {d : Char} (h : d ∈ bytesHex bytes) :
    IsHexDigit d := by
  obtain ⟨_, -, hd⟩ := List.mem_flatMap.mp h
  exact isHexDigit_of_mem_hexText hd

namespace Code

variable {c : Code}

theorem isHexDigit_of_mem_renderStartLength {d : Char} (h : d ∈ c.renderStartLength) :
    IsHexDigit d := by
  unfold renderStartLength at h
  dsimp only at h
  split at h
  · exact isHexDigit_of_mem_hexText h
  · exact isHexDigit_of_mem_renderLength h

/-- Nothing but hexadecimal digits is shown. -/
theorem isHexDigit_of_mem_render {d : Char} (h : d ∈ c.render) : IsHexDigit d := by
  simp only [render, renderPayload, renderBody, luhnDigit, xorDigit, renderElement,
    List.mem_append, List.mem_flatMap] at h
  rcases h with ((h | ((h | h) | h) | ⟨_, -, h | h⟩) | h) | h
  · exact isHexDigit_of_mem_hexText h
  · exact isHexDigit_of_mem_renderStartLength h
  · exact isHexDigit_of_mem_bytesHex h
  · exact isHexDigit_of_mem_renderData h
  · exact isHexDigit_of_mem_renderLength h
  · exact isHexDigit_of_mem_renderData h
  · exact isHexDigit_of_mem_hexText h
  · exact isHexDigit_of_mem_hexText h

end Code

/-! ### Sizes -/

section Elements

variable {parts : List (List Char)} (format : Format)

theorem length_flatMap_renderElement (h : ∀ data ∈ parts, Plain data) :
    (parts.flatMap (renderElement format)).length =
      2 * (parts.map fun data => 1 + dataBytes data).sum + parts.countP (Wide format ·) := by
  induction parts with
  | nil => rfl
  | cons data parts ih =>
    rw [List.forall_mem_cons] at h
    rw [List.flatMap_cons, List.length_append, renderElement, List.length_append,
      length_renderLength h.1, length_renderData h.1.ascii, ih h.2, List.map_cons, List.sum_cons,
      List.countP_cons]
    simp only [decide_eq_true_eq]
    omega

/-- Elements are not shown by more than two digits for each character of the payload. -/
theorem length_flatMap_renderElement_le (h : ∀ data ∈ parts, Plain data) :
    (parts.flatMap (renderElement format)).length ≤
      2 * (parts.map fun data => data.length + 2).sum := by
  induction parts with
  | nil => exact Nat.le_refl _
  | cons data parts ih =>
    rw [List.forall_mem_cons] at h
    have hbytes := dataBytes_le h.1.ascii
    have hrest := ih h.2
    rw [List.flatMap_cons, List.length_append, renderElement, List.length_append,
      length_renderLength h.1, length_renderData h.1.ascii, List.map_cons, List.sum_cons]
    split <;> omega

end Elements

namespace Code

variable {text : List Char} {c : Code}

/-- The number of bytes between the first one and the check digits, if every length takes one. -/
def shownBytes (c : Code) : Nat :=
  1 + c.controlBytes.length + dataBytes c.startCode +
    (c.elements.map fun data => 1 + dataBytes data).sum

/-- How many parts have a length of three digits. -/
def wideParts (c : Code) : Nat := (c.startCode :: c.elements).countP (Wide c.format ·)

theorem length_renderBody (h : c.Regular) :
    c.renderBody.length = 2 * c.shownBytes + c.wideParts := by
  obtain ⟨hstart, helements⟩ := List.forall_mem_cons.mp h.plain
  rw [renderBody, List.length_append, List.length_append, List.length_append,
    length_renderStartLength hstart, length_bytesHex, length_renderData hstart.ascii,
    length_flatMap_renderElement c.format helements, shownBytes, wideParts, List.countP_cons]
  simp only [decide_eq_true_eq]
  omega

/-- A part is wide in the earlier format only. -/
theorem wideParts_eq_zero (hformat : c.format = .hhd14) : c.wideParts = 0 := by
  rw [wideParts, List.countP_eq_zero]
  intro data _ hwide
  rw [decide_eq_true_eq, hformat] at hwide
  cases hwide.1

/-- A code is not shown by more than two digits for each character that the payload declares. -/
theorem length_renderBody_le (h : c.Regular) : c.renderBody.length ≤ 2 * c.length := by
  obtain ⟨hstart, helements⟩ := List.forall_mem_cons.mp h.plain
  have hsize := h.size
  have hbytes := dataBytes_le hstart.ascii
  have hparts := length_flatMap_renderElement_le c.format helements
  rw [renderBody, List.length_append, List.length_append, List.length_append,
    length_renderStartLength hstart, length_bytesHex, length_renderData hstart.ascii]
  split <;> omega

/-- The number that is shown first. -/
def frameLength (c : Code) : Nat := (c.renderBody.length + 2) / 2

theorem length_render (c : Code) :
    c.render.length = (hexText 2 c.frameLength).length + c.renderBody.length + 2 := by
  rw [render, renderPayload, List.length_append, List.length_append, List.length_append,
    length_luhnDigit, length_xorDigit, frameLength]

/-- Either the first number takes a byte, or the code is one of the later format with 255 bytes or
more, and the number takes three digits. -/
theorem length_frameLength (h : c.Regular) :
    (hexText 2 c.frameLength).length = 2 ∧ c.frameLength < 256 ∧ c.shownBytes < 255 ∨
      (hexText 2 c.frameLength).length = 3 ∧ 255 ≤ c.shownBytes ∧ c.wideParts = 0 := by
  have hbody := length_renderBody h
  have hle := length_renderBody_le h
  have hdeclared := h.declared
  have hframe : c.frameLength = (2 * c.shownBytes + c.wideParts + 2) / 2 := by
    rw [frameLength, hbody]
  have htwo := @length_hexText_le_iff 2 2 c.frameLength (by decide)
  have hthree := @length_hexText_le_iff 2 3 c.frameLength (by decide)
  have hwidth : 2 ≤ (hexText 2 c.frameLength).length := by
    rw [length_hexText]
    exact Nat.le_max_left _ _
  cases hformat : c.format with
  | hhd13 =>
    rw [hformat] at hdeclared
    replace hdeclared : c.length < 100 := hdeclared
    left
    omega
  | hhd14 =>
    rw [hformat] at hdeclared
    replace hdeclared : c.length < 1000 := hdeclared
    have hnone := wideParts_eq_zero hformat
    omega

/-! ### The frame -/

/-- The first byte is the number of bytes that follow it. -/
def CountsRest (c : Code) : Prop :=
  ∃ n, hexadecimal? 256 (c.render.take 2) = some n ∧ c.render.length = 2 + 2 * n

theorem even_length_render_iff (h : c.Regular) :
    2 ∣ c.render.length ↔ c.shownBytes < 255 ∧ 2 ∣ c.wideParts := by
  rw [length_render, length_renderBody h]
  rcases length_frameLength h with ⟨hbyte, -, hfew⟩ | ⟨hthree, hmany, hnone⟩ <;> omega

theorem countsRest_iff (h : c.Regular) :
    c.CountsRest ↔ c.shownBytes < 255 ∧ 2 ∣ c.wideParts := by
  rw [← even_length_render_iff h]
  constructor
  · rintro ⟨n, -, hlength⟩
    omega
  · intro heven
    obtain ⟨hfew, -⟩ := (even_length_render_iff h).mp heven
    rcases length_frameLength h with ⟨hbyte, hlt, -⟩ | ⟨-, hmany, -⟩
    · have hfirst : c.render.take 2 = hexText 2 c.frameLength := by
        rw [render, renderPayload, List.append_assoc, List.append_assoc]
        exact List.take_left' hbyte
      have hframe : c.frameLength = (c.renderBody.length + 2) / 2 := rfl
      refine ⟨c.frameLength, ?_, ?_⟩
      · rw [hfirst, hexadecimal?_hexText 2 hlt]
      · rw [length_render, hbyte] at heven ⊢
        omega
    · omega

/-- **When a shown code is framed.** What is shown is hexadecimal. A length takes one byte exactly
if its part is not wide. The code consists of whole bytes, and the first one counts the others,
exactly if there are fewer than 255 bytes to count besides the check digits and the lengths of
three digits make up for each other. -/
theorem render_framed_iff (h : read text = .ok c) :
    (∀ d ∈ c.render, IsHexDigit d) ∧
      (c.renderStartLength.length = 2 ↔ ¬Wide c.format c.startCode) ∧
      (∀ data ∈ c.elements, (renderLength c.format data).length = 2 ↔ ¬Wide c.format data) ∧
      (2 ∣ c.render.length ↔ c.shownBytes < 255 ∧ 2 ∣ c.wideParts) ∧
      (c.CountsRest ↔ c.shownBytes < 255 ∧ 2 ∣ c.wideParts) := by
  have hregular := regular_of_read h
  obtain ⟨hstart, helements⟩ := List.forall_mem_cons.mp hregular.plain
  refine ⟨fun d hd => isHexDigit_of_mem_render hd, ?_, ?_, even_length_render_iff hregular,
    countsRest_iff hregular⟩
  · rw [length_renderStartLength hstart]
    simp
  · intro data hdata
    rw [length_renderLength (helements data hdata)]
    simp

/-- A transfer to an account of 22 characters, in the earlier format. -/
def ibanTransfer : Code where
  format := .hhd13
  length := 34
  controlBytes := []
  startCode := "88134473".toList
  elements := ["DE89370400440532013000".toList]
  rest := []

/-- The account takes 22 bytes, and their number three digits. -/
theorem render_framed_iff_ibanTransfer :
    read "34088813447322DE89370400440532013000".toList = .ok ibanTransfer ∧
      (∀ d ∈ ibanTransfer.render, IsHexDigit d) ∧
      ibanTransfer.renderStartLength.length = 2 ∧
      (∀ data ∈ ibanTransfer.elements, (renderLength .hhd13 data).length ≠ 2) ∧
      ¬2 ∣ ibanTransfer.render.length ∧ ¬ibanTransfer.CountsRest := by
  have hread : read "34088813447322DE89370400440532013000".toList = .ok ibanTransfer := by
    decide +kernel
  have hwide : ∀ data ∈ ibanTransfer.elements, Wide .hhd13 data := by decide
  have hodd : ¬2 ∣ ibanTransfer.wideParts := by decide
  obtain ⟨hdigits, hstart, hlengths, heven, hcounts⟩ := render_framed_iff hread
  exact ⟨hread, hdigits, hstart.mpr (by decide),
    fun data hdata hlength => (hlengths data hdata).mp hlength (hwide data hdata),
    fun h => hodd (heven.mp h).2, fun h => hodd (hcounts.mp h).2⟩

end Code

end TanDialog.Flicker
