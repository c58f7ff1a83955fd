import TanDialog.Proofs.Flicker.Rendering

/-!
# Codes of the later format show all of their data

The parts of a code of the later format follow each other without anything between them. Each one
can be split off again: the length byte of an element tells its kind and how much is shown of it,
that of the start code whether control bytes follow, and of these the last one is known by its high
bit. So two codes that show the same digits agree in all parts, the number of elements included.

The number of bytes in front of all has two digits or three. It is not read for that: two shown
codes of the same length have bodies of the same length, because a longer body never has a shorter
number in front.
-/

namespace TanDialog.Flicker

open Numeral

variable {r s : List Char}

/-- A flag that is added to a number is told apart from it by its weight. -/
theorem flagged_inj {weight a b : Nat} {p q : Bool} (ha : a < weight) (hb : b < weight)
    (h : (a + if p then 0 else weight) = b + if q then 0 else weight) : a = b ∧ p = q := by
  cases p <;> cases q <;> simp only [if_true, Bool.false_eq_true, if_false] at h
  case false.false => exact ⟨by omega, rfl⟩
  case true.true => exact ⟨h, rfl⟩
  all_goals omega

/-! ### Elements -/

section Elements

variable {data other : List Char}

/-- A length byte tells the kind of the data and how much is shown of it. -/
theorem lengthByte_inj (hdata : Plain data) (hother : Plain other)
    (h : lengthByte data = lengthByte other) :
    isNumeric data = isNumeric other ∧ dataBytes data = dataBytes other := by
  have hdataBytes := Nat.lt_of_le_of_lt (dataBytes_le hdata.ascii) hdata.short
  have hotherBytes := Nat.lt_of_le_of_lt (dataBytes_le hother.ascii) hother.short
  exact (flagged_inj hdataBytes hotherBytes h).symm

theorem renderData_append_inj (hdata : Plain data) (hother : Plain other)
    (hbyte : lengthByte data = lengthByte other)
    (h : renderData data ++ r = renderData other ++ s) : data = other ∧ r = s := by
  obtain ⟨hkind, hbytes⟩ := lengthByte_inj hdata hother hbyte
  have hlength : (renderData data).length = (renderData other).length := by
    rw [length_renderData hdata.ascii, length_renderData hother.ascii, hbytes]
  obtain ⟨hshown, hrest⟩ := List.append_inj h hlength
  exact ⟨renderData_injective hdata.ascii hother.ascii hkind hshown, hrest⟩

theorem renderElement_append_inj (hdata : Plain data) (hother : Plain other)
    (h : renderElement .hhd14 data ++ r = renderElement .hhd14 other ++ s) :
    data = other ∧ r = s := by
  have hlt := lengthByte_lt hdata
  have hlt' := lengthByte_lt hother
  simp only [renderElement, renderLength_hhd14, List.append_assoc] at h
  obtain ⟨hbyte, h⟩ := byteText_append_inj (by omega) (by omega) h
  exact renderData_append_inj hdata hother hbyte h

theorem renderElement_ne_nil (data : List Char) : renderElement .hhd14 data ≠ [] := by
  rw [renderElement, renderLength_hhd14]
  exact List.append_ne_nil_of_left_ne_nil (hexText_ne_nil _ _) _

/-- Elements one after the other can be told apart. -/
theorem flatMap_renderElement_injective {parts others : List (List Char)}
    (hparts : ∀ data ∈ parts, Plain data) (hothers : ∀ data ∈ others, Plain data)
    (h : parts.flatMap (renderElement .hhd14) = others.flatMap (renderElement .hhd14)) :
    parts = others := by
  induction parts generalizing others with
  | nil =>
    cases others with
    | nil => rfl
    | cons other others =>
      exact absurd (List.append_eq_nil_iff.mp h.symm).1 (renderElement_ne_nil other)
  | cons data parts ih =>
    cases others with
    | nil => exact absurd (List.append_eq_nil_iff.mp h).1 (renderElement_ne_nil data)
    | cons other others =>
      rw [List.forall_mem_cons] at hparts hothers
      obtain ⟨rfl, hrest⟩ := renderElement_append_inj hparts.1 hothers.1 h
      rw [ih hparts.2 hothers.2 hrest]

end Elements

/-! ### Control bytes -/

/-- The last control byte is known by its high bit, or by the number of those before it. -/
theorem bytesHex_append_inj {limit : Nat} {bytes others : List UInt8}
    (hbytes : Reader.ControlSeries limit bytes) (hothers : Reader.ControlSeries limit others)
    (h : bytesHex bytes ++ r = bytesHex others ++ s) : bytes = others ∧ r = s := by
  induction limit generalizing bytes others with
  | zero =>
    obtain rfl : bytes = [] := hbytes
    obtain rfl : others = [] := hothers
    exact ⟨rfl, h⟩
  | succ limit ih =>
    cases bytes with
    | nil => exact hbytes.elim
    | cons b bytes =>
      cases others with
      | nil => exact hothers.elim
      | cons b' others =>
        rw [bytesHex_cons, bytesHex_cons, List.append_assoc, List.append_assoc] at h
        obtain ⟨hb, hmore⟩ := byteText_append_inj b.toNat_lt b'.toNat_lt h
        obtain rfl := UInt8.toNat_inj.mp hb
        rw [Reader.ControlSeries] at hbytes hothers
        split at hbytes
        case isTrue hhigh =>
          rw [if_pos hhigh] at hothers
          obtain ⟨rfl, hrest⟩ := ih hbytes hothers hmore
          exact ⟨rfl, hrest⟩
        case isFalse hlow =>
          rw [if_neg hlow] at hothers
          subst hbytes hothers
          exact ⟨rfl, hmore⟩

namespace Code

variable {f g : Code}

theorem controlBytes_append_inj (hf : f.Regular) (hg : g.Regular)
    (hempty : f.controlBytes.isEmpty = g.controlBytes.isEmpty)
    (h : bytesHex f.controlBytes ++ r = bytesHex g.controlBytes ++ s) :
    f.controlBytes = g.controlBytes ∧ r = s := by
  have hboth : f.controlBytes = [] ↔ g.controlBytes = [] := by
    rw [← List.isEmpty_iff, hempty, List.isEmpty_iff]
  by_cases hnone : f.controlBytes = []
  · rw [hnone, hboth.mp hnone] at h
    exact ⟨hnone.trans (hboth.mp hnone).symm, h⟩
  · have hsome : g.controlBytes ≠ [] := fun hg => hnone (hboth.mpr hg)
    exact bytesHex_append_inj (hf.control.resolve_left hnone).2 (hg.control.resolve_left hsome).2 h

/-! ### Whole codes -/

theorem renderBody_injective (hf : f.Regular) (hg : g.Regular) (hformat : f.format = .hhd14)
    (hformat' : g.format = .hhd14) (h : f.renderBody = g.renderBody) :
    f.controlBytes = g.controlBytes ∧ f.startCode = g.startCode ∧ f.elements = g.elements := by
  obtain ⟨hfstart, hfelements⟩ := List.forall_mem_cons.mp hf.plain
  obtain ⟨hgstart, hgelements⟩ := List.forall_mem_cons.mp hg.plain
  simp only [renderBody, renderStartLength_hhd14 hformat hfstart,
    renderStartLength_hhd14 hformat' hgstart, hformat, hformat', List.append_assoc] at h
  obtain ⟨hstart, h⟩ := byteText_append_inj (startByte_lt hfstart) (startByte_lt hgstart) h
  obtain ⟨hbyte, hempty⟩ := flagged_inj (lengthByte_lt hfstart) (lengthByte_lt hgstart) hstart
  obtain ⟨hcontrol, h⟩ := controlBytes_append_inj hf hg hempty h
  obtain ⟨hcode, h⟩ := renderData_append_inj hfstart hgstart hbyte h
  exact ⟨hcontrol, hcode, flatMap_renderElement_injective hfelements hgelements h⟩

/-- A longer body never has a shorter number in front, so that bodies in payloads of one length
are of one length. -/
theorem renderBody_eq_of_renderPayload_eq (h : f.renderPayload = g.renderPayload) :
    f.renderBody = g.renderBody := by
  have hlength := congrArg List.length h
  simp only [renderPayload, List.length_append] at hlength
  have hmono : ∀ {m n : Nat}, m ≤ n →
      (hexText 2 ((m + 2) / 2)).length ≤ (hexText 2 ((n + 2) / 2)).length :=
    fun hle => length_hexText_mono 2 (by omega)
  have heq : f.renderBody.length = g.renderBody.length := by
    rcases Nat.le_total f.renderBody.length g.renderBody.length with hle | hle
    · have hnumber := hmono hle
      omega
    · have hnumber := hmono hle
      omega
  exact (List.append_inj' h heq).2

theorem renderPayload_eq_of_render_eq (h : f.render = g.render) :
    f.renderPayload = g.renderPayload := by
  have hchecks : (f.luhnDigit ++ f.xorDigit).length = (g.luhnDigit ++ g.xorDigit).length := by
    simp only [List.length_append, length_luhnDigit, length_xorDigit]
  rw [render, render, List.append_assoc, List.append_assoc] at h
  exact (List.append_inj' h hchecks).1

/-- **Codes of the later format are lossless.** Payloads that are shown by the same digits have
the same control bytes, the same start code and the same data elements. -/
theorem parts_eq_of_render_eq {text text' : List Char} (hf : readAs .hhd14 text = .ok f)
    (hg : readAs .hhd14 text' = .ok g) (h : f.render = g.render) :
    f.controlBytes = g.controlBytes ∧ f.startCode = g.startCode ∧ f.elements = g.elements := by
  obtain ⟨hformat, hregular⟩ := regular_of_readAs hf
  obtain ⟨hformat', hregular'⟩ := regular_of_readAs hg
  exact renderBody_injective hregular hregular' hformat hformat'
    (renderBody_eq_of_renderPayload_eq (renderPayload_eq_of_render_eq h))

/-- A transfer of one euro. -/
def oneEuro : Code where
  format := .hhd14
  length := 34
  controlBytes := [1]
  startCode := "1120492".toList
  elements := ["1234567890".toList, "1,00".toList, "EUR".toList]
  rest := []

/-- The transfer with text behind its elements. -/
def oneEuroTrailing : Code := { oneEuro with length := 36, rest := "DE".toList }

/-- What follows three elements is not shown, and the rest is the same. -/
theorem parts_eq_of_render_eq_oneEuro :
    readAs .hhd14 "03487011120492101234567890041,0003EUR".toList = .ok oneEuro ∧
      readAs .hhd14 "03687011120492101234567890041,0003EURDE".toList = .ok oneEuroTrailing ∧
      oneEuro.render = oneEuroTrailing.render ∧
      oneEuro.controlBytes = oneEuroTrailing.controlBytes ∧
      oneEuro.startCode = oneEuroTrailing.startCode ∧
      oneEuro.elements = oneEuroTrailing.elements := by
  have hread : readAs .hhd14 "03487011120492101234567890041,0003EUR".toList = .ok oneEuro := by
    decide +kernel
  have hread' :
      readAs .hhd14 "03687011120492101234567890041,0003EURDE".toList = .ok oneEuroTrailing := by
    decide +kernel
  have hrender : oneEuro.render = oneEuroTrailing.render := by decide +kernel
  exact ⟨hread, hread', hrender, parts_eq_of_render_eq hread hread' hrender⟩

end Code

end TanDialog.Flicker
