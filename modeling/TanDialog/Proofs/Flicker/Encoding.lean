import TanDialog.Proofs.Flicker.Inline
import TanDialog.Proofs.Flicker.Layout
import TanDialog.Proofs.Text.Decimal

/-!
# Writing payloads, and reading what was written

`Code.layout` writes the fields of a payload with just the digits that they have room for, and
`Code.encode` the payload. What is written reads back as the code that it was written for, unless a
payload is found within it (`Code.reading_inverts_encoding`), and that cannot happen where the text
is without the first marker.

It is not enough that the parts are without it: the marker starts with a letter that is a
hexadecimal digit too, so that it can begin in a field and end in the part behind it
(`Code.marker_across_field`).
-/

namespace TanDialog

/-! ### Hexadecimal digits of either case -/

namespace Numeral

theorem toUpper_eq_self_of_le {c : Char} (h : 128 ≤ c.toNat) : c.toUpper = c := by
  have hlarge : ¬ (c.val ≥ 'a'.val ∧ c.val ≤ 'z'.val) := by
    rintro ⟨-, hle⟩
    have hle : c.toNat ≤ 'z'.toNat := hle
    have hz : 'z'.toNat = 122 := rfl
    omega
  exact dif_neg hlarge

/-- What relates the ASCII characters to their upper case, and any other character to itself,
relates every character to its upper case. -/
theorem toUpper_cases {r : Char → Char → Prop}
    (hascii : ∀ n < 128, r (Char.ofNat n).toUpper (Char.ofNat n))
    (hself : ∀ c, 128 ≤ c.toNat → r c c) (c : Char) : r c.toUpper c := by
  rcases Nat.lt_or_ge c.toNat 128 with hlt | hge
  · simpa using hascii c.toNat hlt
  · rw [toUpper_eq_self_of_le hge]
    exact hself c hge

/-- Letters are digits in either case. -/
theorem digit?_toUpper (c : Char) : digit? 16 c.toUpper = digit? 16 c :=
  toUpper_cases (r := fun c d => digit? 16 c = digit? 16 d) (by decide) (fun _ _ => rfl) c

theorem toUpper_eq_plus_iff (c : Char) : c.toUpper = '+' ↔ c = '+' :=
  toUpper_cases (r := fun c d => c = '+' ↔ d = '+') (by decide) (fun _ _ => Iff.rfl) c

theorem hexadecimal?_map_toUpper (bound : Nat) (cs : List Char) :
    hexadecimal? bound (cs.map Char.toUpper) = hexadecimal? bound cs := by
  have hdigits : ∀ (value : Nat) (cs : List Char),
      digitsFrom? 16 value (cs.map Char.toUpper) = digitsFrom? 16 value cs := by
    intro value cs
    induction cs generalizing value with
    | nil => rfl
    | cons c cs ih => simp only [List.map_cons, digitsFrom?, digit?_toUpper, ih]
  have hunsigned : unsignedPart (cs.map Char.toUpper) = (unsignedPart cs).map Char.toUpper := by
    cases cs with
    | nil => rfl
    | cons c cs =>
      by_cases hplus : c = '+'
      · subst hplus
        rfl
      · have hplus' : c.toUpper ≠ '+' := fun h => hplus ((toUpper_eq_plus_iff c).mp h)
        simp [unsignedPart, hplus, hplus']
  rw [hexadecimal?, hexadecimal?, read?, read?, hunsigned]
  cases unsignedPart cs with
  | nil => rfl
  | cons c cs => exact congrArg (Option.filter _) (hdigits 0 (c :: cs))

end Numeral

namespace Flicker

open Numeral

/-! ### Visible texts -/

/-- A character of ASCII that is neither blank nor a control character. -/
def IsVisible (c : Char) : Prop := 0x21 ≤ c.toNat ∧ c.toNat ≤ 0x7e

instance (c : Char) : Decidable (IsVisible c) := inferInstanceAs (Decidable (_ ∧ _))

def AllVisible (text : List Char) : Prop := ∀ c ∈ text, IsVisible c

-- the characters of the text, not all that there are
instance (text : List Char) : Decidable (AllVisible text) :=
  List.decidableBAll (fun c => IsVisible c) text

theorem IsVisible.isBlank_eq_false {c : Char} (h : IsVisible c) : Text.isBlank c = false := by
  have hall : ∀ n < 0x7f, 0x21 ≤ n → Text.isBlank (Char.ofNat n) = false := by decide
  simpa using hall c.toNat (Nat.lt_succ_of_le h.2) h.1

theorem isVisible_of_isHexDigit {c : Char} (h : IsHexDigit c) : IsVisible c := by
  have hall : AllVisible "0123456789ABCDEF".toList := by decide
  exact hall c h

theorem isVisible_of_toUpper {c : Char} (h : IsVisible c.toUpper) : IsVisible c :=
  toUpper_cases (r := fun c d => IsVisible c → IsVisible d) (by decide) (fun _ _ h => h) c h

/-- There is nothing to be cleaned in a visible text. -/
theorem stripped_of_allVisible {text : List Char} (h : AllVisible text) :
    stripped text = text := by
  have hspace : ' ' ∉ text := fun hmem => absurd (h ' ' hmem) (by decide)
  exact stripped_eq_self hspace (fun c hc => (h c (List.mem_of_mem_head? hc)).isBlank_eq_false)
    fun c hc => (h c (List.mem_of_getLast? hc)).isBlank_eq_false

/-- A payload is shorter than the text around it, even with a zero in front. -/
theorem length_inlinePayload?_lt {text payload : List Char}
    (h : inlinePayload? text = some payload) : payload.length + 1 < text.length := by
  have hdrop : ∀ (n : Nat) (cs rest : List Char), Text.dropBytes? n cs = some rest →
      rest.length ≤ cs.length := by
    intro n cs rest hrest
    induction cs generalizing n with
    | nil =>
      cases n with
      | zero => exact (Option.some.inj hrest) ▸ Nat.le_refl _
      | succ n => cases hrest
    | cons c cs ih =>
      cases n with
      | zero => exact (Option.some.inj hrest) ▸ Nat.le_refl _
      | succ n =>
        rw [Text.dropBytes?] at hrest
        split at hrest
        case isTrue => exact Nat.le_succ_of_le (ih _ hrest)
        case isFalse => cases hrest
  obtain ⟨⟨before, after⟩, hsplit, h⟩ := Option.bind_eq_some_iff.mp h
  obtain ⟨⟨front, rest⟩, hsplit', h⟩ := Option.bind_eq_some_iff.mp h
  have htext := congrArg List.length (splitAtMarker?_eq_some_iff.mp hsplit).1
  have hbefore := congrArg List.length (splitAtMarker?_eq_some_iff.mp hsplit').1
  have hmarker : payloadMarker.length = 6 := rfl
  have hmarker' : textMarker.length = 8 := rfl
  have hrest := hdrop 4 rest payload h
  simp only [List.length_append] at htext hbefore
  omega

/-! ### Written fields -/

/-- The layout with its hexadecimal digits in upper case. -/
def Layout.upper (l : Layout) : Layout :=
  { l with start := l.start.map Char.toUpper, control := l.control.map (·.map Char.toUpper) }

namespace Code

/-- The fields of a payload, with all the digits that they have room for. The high bit of the start
length is set if there are control bytes. -/
def layout (c : Code) : Layout where
  total := decimalText c.format.lengthDigits c.length
  start := hexText 2 (c.startCode.length + if c.controlBytes.isEmpty then 0 else 128)
  control := c.controlBytes.map fun b => hexText 2 b.toNat
  elements := c.elements.map fun data => decimalText 2 data.length

/-- The payload of a code. -/
def encode (c : Code) : List Char := c.layout.text c

/-- The codes for which there is a payload: the parts are visible and fit their fields, the control
bytes end as they have to, something is left over only behind three elements, and the length is that
of all that follows it and fits its field. -/
structure Encodable (c : Code) : Prop where
  control : c.controlBytes = [] ∨
    c.format = .hhd14 ∧ ControlChain Reader.maxControlBytes c.controlBytes
  few : c.elements.length ≤ 3
  short : ∀ data ∈ c.startCode :: c.elements, data.length ≤ 63
  rest : c.rest ≠ [] → c.elements.length = 3
  visible : ∀ part ∈ c.rest :: c.startCode :: c.elements, AllVisible part
  length_eq : c.length = (c.layout.body c).length
  fits : c.length < 10 ^ c.format.lengthDigits

variable {c : Code} {l : Layout}

theorem length_body_upper (l : Layout) (c : Code) :
    (l.upper.body c).length = (l.body c).length := by
  have hcontrol : (l.control.map (·.map Char.toUpper)).flatten.length =
      l.control.flatten.length := by
    rw [← List.map_flatten, List.length_map]
  simp only [Layout.upper, Layout.body, List.length_append, List.length_map, hcontrol]

/-- The start length reads as the length of the start code and the flag. -/
theorem start_of_upper (h : c.Encodable) (hl : l.upper = c.layout) :
    IsField (hexadecimal? 256) 2 l.start
      (c.startCode.length + if c.controlBytes.isEmpty then 0 else 128) := by
  have hstart : l.start.map Char.toUpper = c.layout.start := congrArg Layout.start hl
  have hshort := h.short c.startCode List.mem_cons_self
  have hlt : (c.startCode.length + if c.controlBytes.isEmpty then 0 else 128) < 256 := by
    split <;> omega
  constructor
  · rw [← List.length_map (f := Char.toUpper), hstart]
    exact length_byteText hlt
  · rw [← hexadecimal?_map_toUpper, hstart]
    exact hexadecimal?_hexText 2 hlt

theorem control_of_upper (hl : l.upper = c.layout) :
    List.Forall₂ IsByteField l.control c.controlBytes := by
  have hcontrol : l.control.map (·.map Char.toUpper) =
      c.controlBytes.map fun b => hexText 2 b.toNat := congrArg Layout.control hl
  have hbytes : List.Forall₂ (fun field (b : UInt8) => field.map Char.toUpper = hexText 2 b.toNat)
      l.control c.controlBytes := by
    rw [← List.forall₂_eq_eq_eq, List.forall₂_map_left_iff, List.forall₂_map_right_iff] at hcontrol
    exact hcontrol
  refine hbytes.imp fun field b hfield => ⟨?_, ?_⟩
  · rw [← List.length_map (f := Char.toUpper), hfield]
    exact length_byteText b.toNat_lt
  · rw [← hexadecimal?_map_toUpper, hfield]
    exact hexadecimal?_hexText 2 b.toNat_lt

theorem elements_of_upper (h : c.Encodable) (hl : l.upper = c.layout) :
    List.Forall₂ IsLengthField l.elements c.elements := by
  have helements : l.elements = c.elements.map fun data => decimalText 2 data.length :=
    congrArg Layout.elements hl
  rw [helements, List.forall₂_map_left_iff, List.forall₂_same]
  intro data hdata
  have hshort := h.short data (List.mem_cons_of_mem _ hdata)
  exact ⟨data.length, ⟨length_decimalText (by decide) (by omega),
    decimal?_decimalText 2 (by omega)⟩, Nat.mod_eq_of_lt (by omega)⟩

/-- The written fields describe the code. -/
theorem Encodable.describes (h : c.Encodable) (hl : l.upper = c.layout) : l.Describes c := by
  have htotal : l.total = decimalText c.format.lengthDigits c.length := congrArg Layout.total hl
  have hbound : 10 ^ c.format.lengthDigits ≤ bound64 ∧ 0 < c.format.lengthDigits := by
    cases c.format <;> exact ⟨by decide, by decide⟩
  refine ⟨?_, ?_, ⟨_, start_of_upper h hl, ?_, ?_⟩, control_of_upper hl, elements_of_upper h hl,
    h.few, fun hlt => ?_⟩
  · rw [htotal]
    exact ⟨length_decimalText hbound.2 h.fits,
      decimal?_decimalText _ (Nat.lt_of_lt_of_le h.fits hbound.1)⟩
  · rw [h.length_eq, ← hl, length_body_upper]
  · have hshort := h.short c.startCode List.mem_cons_self
    split <;> omega
  · rcases h.control with hnone | ⟨hformat, hchain⟩
    · have hlow : ¬ 128 ≤ c.startCode.length + 0 := by
        have hshort := h.short c.startCode List.mem_cons_self
        omega
      rw [hnone, List.isEmpty_nil, if_pos rfl, if_neg fun hflag => hlow hflag.2]
    · have hsome : c.controlBytes.isEmpty = false := by
        simpa using hchain.nonempty
      rw [hsome, if_pos ⟨hformat, by simp⟩]
      exact hchain
  · by_contra hrest
    have hthree : c.elements.length = Reader.maxElements := h.rest hrest
    omega

/-- The written payload is visible. -/
theorem Encodable.allVisible_text (h : c.Encodable) (hl : l.upper = c.layout) :
    AllVisible (l.text c) := by
  have hdecimal : ∀ {width n : Nat} {char : Char}, char ∈ decimalText width n → IsVisible char :=
    fun hchar => isVisible_of_isHexDigit (isHexDigit_of_isDigit (isDigit_of_mem_decimalText hchar))
  have hhex : ∀ {n : Nat} {char : Char}, char.toUpper ∈ hexText 2 n → IsVisible char :=
    fun hchar => isVisible_of_toUpper (isVisible_of_isHexDigit (isHexDigit_of_mem_hexText hchar))
  intro char hchar
  simp only [Layout.text, Layout.body, List.mem_append] at hchar
  rcases hchar with hchar | hchar | hchar | hchar | hchar | hchar
  · have htotal : l.total = decimalText c.format.lengthDigits c.length := congrArg Layout.total hl
    exact hdecimal (htotal ▸ hchar)
  · have hstart : l.start.map Char.toUpper = c.layout.start := congrArg Layout.start hl
    exact hhex (hstart ▸ List.mem_map_of_mem hchar)
  · have hcontrol : l.control.map (·.map Char.toUpper) =
        c.controlBytes.map fun b => hexText 2 b.toNat := congrArg Layout.control hl
    obtain ⟨field, hfield, hmem⟩ := List.mem_flatten.mp hchar
    have hupper : field.map Char.toUpper ∈ c.controlBytes.map fun b => hexText 2 b.toNat :=
      hcontrol ▸ List.mem_map_of_mem hfield
    obtain ⟨b, -, hb⟩ := List.mem_map.mp hupper
    exact hhex (hb ▸ List.mem_map_of_mem hmem)
  · exact h.visible c.startCode (by simp) char hchar
  · have helements : l.elements = c.elements.map fun data => decimalText 2 data.length :=
      congrArg Layout.elements hl
    rw [helements, List.zipWith_map_left, List.zipWith_self] at hchar
    obtain ⟨_, hmem, hchar⟩ := List.mem_flatten.mp hchar
    obtain ⟨data, hdata, rfl⟩ := List.mem_map.mp hmem
    rcases List.mem_append.mp hchar with hchar | hchar
    · exact hdecimal hchar
    · exact h.visible data (by simp [hdata]) char hchar
  · exact h.visible c.rest List.mem_cons_self char hchar

/-! ### Reading what was written -/

/-- A visible layout reads as what it describes exactly if no payload is found within it: a payload
within it declares a smaller length. -/
theorem readAs_text_iff (h : l.Describes c) (hvisible : AllVisible (l.text c)) :
    readAs c.format (l.text c) = .ok c ↔ inlinePayload? (l.text c) = none := by
  have hstripped : stripped (l.text c) = l.text c := stripped_of_allVisible hvisible
  rw [readAs_eq_ok_iff]
  constructor
  · rintro ⟨-, -, l', hl', htext⟩
    by_contra hinline
    obtain ⟨payload, hpayload⟩ := Option.ne_none_iff_exists'.mp hinline
    have hshorter := length_inlinePayload?_lt hpayload
    rw [clean_eq_of_inlinePayload? (by rwa [hstripped])] at htext
    have hlength := congrArg List.length htext
    rw [Layout.text, List.length_cons, List.length_append, hl'.total.length_eq,
      ← hl'.length_eq] at hlength
    rw [Layout.text, List.length_append, h.total.length_eq, ← h.length_eq] at hshorter
    omega
  · intro hnone
    have hclean : clean (l.text c) = l.text c := by
      rw [clean_eq_of_inlinePayload?_eq_none (by rwa [hstripped]), hstripped]
    rw [hclean]
    refine ⟨rfl, fun char hchar => ?_, l, h, rfl⟩
    have hle := (hvisible char hchar).2
    omega

/-- **Reading inverts encoding.** A payload that is written for a code, with hexadecimal digits of
either case, reads back as this code exactly if no payload is found within it, which is so wherever
the text is without the first marker. And what reads in a format is, after cleaning, an ASCII text
with a layout for just the parts that are read. -/
theorem reading_inverts_encoding :
    (∀ (c : Code) (l : Layout), c.Encodable → l.upper = c.layout →
      (readAs c.format (l.text c) = .ok c ↔ inlinePayload? (l.text c) = none) ∧
      (¬ payloadMarker <:+: l.text c → readAs c.format (l.text c) = .ok c)) ∧
    ∀ (format : Format) (text : List Char) (c : Code),
      readAs format text = .ok c ↔
        c.format = format ∧ (∀ char ∈ clean text, char.toNat < 128) ∧
          ∃ l : Layout, l.Describes c ∧ clean text = l.text c := by
  refine ⟨fun c l h hl => ?_, fun format text c => readAs_eq_ok_iff⟩
  have hiff := readAs_text_iff (h.describes hl) (h.allVisible_text hl)
  exact ⟨hiff, fun hmarker => hiff.mpr (inlinePayload?_eq_none (.inl hmarker))⟩

/-- A transfer with two control bytes. -/
def controlledTransfer : Code where
  format := .hhd14
  length := 34
  controlBytes := [0x9a, 0x01]
  startCode := "1120492123".toList
  elements := ["1234567890".toList, "1,00".toList]
  rest := []

/-- Its fields, in lower case. -/
def controlledLayout : Layout where
  total := "034".toList
  start := "8a".toList
  control := ["9a".toList, "01".toList]
  elements := ["10".toList, "04".toList]

/-- The transfer is read from its payload. -/
theorem reading_inverts_encoding_controlledTransfer :
    controlledTransfer.Encodable ∧ controlledLayout.upper = controlledTransfer.layout ∧
      ¬ payloadMarker <:+: controlledLayout.text controlledTransfer ∧
      readAs .hhd14 "0348a9a011120492123101234567890041,00".toList = .ok controlledTransfer := by
  have hchain : ControlChain Reader.maxControlBytes controlledTransfer.controlBytes := by
    refine ⟨by decide, by decide, List.forall_mem_singleton.mpr (by decide), ?_⟩
    rintro - b ⟨⟩
    decide
  have hencodable : controlledTransfer.Encodable :=
    ⟨.inr ⟨rfl, hchain⟩, by decide, by decide, by decide, by decide, by decide +kernel, by decide⟩
  have hupper : controlledLayout.upper = controlledTransfer.layout := by decide +kernel
  have hmarker : ¬ payloadMarker <:+: controlledLayout.text controlledTransfer := by
    decide +kernel
  exact ⟨hencodable, hupper, hmarker,
    (reading_inverts_encoding.1 controlledTransfer controlledLayout hencodable hupper).2 hmarker⟩

/-- A code whose parts are without the first marker. The last digit of its start length is the first
letter of the marker, and the start code goes on with the others. -/
def hiddenMarker : Code where
  format := .hhd14
  length := 24
  controlBytes := []
  startCode := "HLGUC1234567".toList
  elements := ["CHLGTEXT".toList]
  rest := []

/-- The marker can stand across the border of a field: then a payload is found where none was
meant, and the code is not read. -/
theorem marker_across_field :
    hiddenMarker.Encodable ∧
      (∀ part ∈ hiddenMarker.rest :: hiddenMarker.startCode :: hiddenMarker.elements,
        ¬ payloadMarker <:+: part) ∧
      hiddenMarker.encode = "0240CHLGUC123456708CHLGTEXT".toList ∧
      readAs hiddenMarker.format hiddenMarker.encode = .error .lengthMismatch := by
  have hencode : hiddenMarker.encode = "0240CHLGUC123456708CHLGTEXT".toList := by decide +kernel
  refine ⟨?_, by decide +kernel, hencode, ?_⟩
  · exact ⟨.inl rfl, by decide, by decide, by decide, by decide, by decide +kernel, by decide⟩
  · rw [hencode]
    decide +kernel

end Code

end Flicker

end TanDialog
