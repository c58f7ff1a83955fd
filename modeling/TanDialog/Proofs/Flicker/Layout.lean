import Mathlib.Data.List.Forall2
import TanDialog.Flicker.Reader

/-!
# The layout of a payload

A payload is a row of fields and parts: a field for the length of all that follows, one for the
length of the start code, one for each control byte, the start code, a field and its data for each
element, and the rest. `Layout` holds the texts of the fields, `Layout.text` puts them together with
the parts, and `Layout.Describes` says what each field has to read as.

Every reader takes its part from the front of a text and leaves the rest, so that the reader of a
whole payload accepts a text exactly if it has such a layout, and the parts are those that it yields
(`Reader.code_ok`, `Code.readAs_eq_ok_iff`). The field of a length may be written in any way that
reads as the number, such as with a plus sign.
-/

namespace TanDialog.Flicker

/-! ### Fields -/

/-- A field of `n` characters that reads as a number. -/
structure IsField (read? : List Char → Option Nat) (n : Nat) (field : List Char) (value : Nat) :
    Prop where
  length_eq : field.length = n
  read_eq : read? field = some value

/-- A field of two hexadecimal digits that reads as a byte. -/
def IsByteField (field : List Char) (b : UInt8) : Prop :=
  IsField (Numeral.hexadecimal? 256) 2 field b.toNat

/-- A field of two decimal digits whose six low bits are the length of an element. -/
def IsLengthField (field data : List Char) : Prop :=
  ∃ n, IsField (Numeral.decimal? 256) 2 field n ∧ n % 64 = data.length

/-- Control bytes that follow a start length which announces them: the high bit of each byte says
that another one follows, up to a limit. -/
structure ControlChain (limit : Nat) (bytes : List UInt8) : Prop where
  nonempty : bytes ≠ []
  short : bytes.length ≤ limit
  goes_on : ∀ b ∈ bytes.dropLast, 128 ≤ b.toNat
  ends : bytes.length < limit → ∀ b ∈ bytes.getLast?, b.toNat < 128

/-- The texts of the fields of a payload. -/
structure Layout where
  /-- The length of all that follows. -/
  total : List Char
  /-- The length of the start code, with the flag for control bytes. -/
  start : List Char
  /-- The control bytes. -/
  control : List (List Char)
  /-- The lengths of the elements. -/
  elements : List (List Char)
deriving DecidableEq

namespace Layout

/-- All that follows the first field. -/
def body (l : Layout) (c : Code) : List Char :=
  l.start ++ (l.control.flatten ++ (c.startCode ++
    ((List.zipWith (· ++ ·) l.elements c.elements).flatten ++ c.rest)))

/-- The whole payload: every field and every part once and in order. -/
def text (l : Layout) (c : Code) : List Char := l.total ++ l.body c

/-- The fields read as what the parts need: the first one is the length of all that follows, the six
low bits of the start length and of the length of an element are the lengths of their parts, and the
high bit of the start length announces control bytes in the later format. Something is left over
only if there are as many elements as there may be. -/
structure Describes (l : Layout) (c : Code) : Prop where
  total : IsField (Numeral.decimal? Numeral.bound64) c.format.lengthDigits l.total c.length
  length_eq : c.length = (l.body c).length
  start : ∃ n, IsField (Numeral.hexadecimal? 256) 2 l.start n ∧ n % 64 = c.startCode.length ∧
    if c.format = .hhd14 ∧ 128 ≤ n then ControlChain Reader.maxControlBytes c.controlBytes
    else c.controlBytes = []
  control : List.Forall₂ IsByteField l.control c.controlBytes
  elements : List.Forall₂ IsLengthField l.elements c.elements
  few : c.elements.length ≤ Reader.maxElements
  rest : c.elements.length < Reader.maxElements → c.rest = []

end Layout

/-! ### The readers of the parts -/

namespace Reader

variable {α β : Type} {text rest : List Char}

/-- A sequence of readers reads one part after the other. -/
theorem bind_ok {x : Reader α} {f : α → Reader β} {b : β} :
    (x >>= f).run text = .ok (b, rest) ↔
      ∃ a between, x.run text = .ok (a, between) ∧ (f a).run between = .ok (b, rest) := by
  rw [StateT.run_bind]
  rcases x.run text with e | ⟨a, between⟩
  · exact iff_of_false nofun nofun
  · constructor
    · intro h
      exact ⟨a, between, rfl, h⟩
    · rintro ⟨_, _, h, hf⟩
      cases h
      exact hf

theorem pure_ok {a b : α} : (pure a : Reader α).run text = .ok (b, rest) ↔ a = b ∧ text = rest := by
  rw [StateT.run_pure]
  simp [pure, Except.pure]

theorem take_ok {n : Nat} {part : List Char} :
    (take n).run text = .ok (part, rest) ↔ text = part ++ rest ∧ part.length = n := by
  change (if text.length < n then Except.error Error.truncated
    else Except.ok (text.take n, text.drop n)) = _ ↔ _
  split
  case isTrue hshort =>
    refine iff_of_false nofun ?_
    rintro ⟨rfl, rfl⟩
    rw [List.length_append] at hshort
    omega
  case isFalse hlong =>
    rw [Except.ok.injEq, Prod.mk.injEq]
    constructor
    · rintro ⟨rfl, rfl⟩
      exact ⟨(List.take_append_drop n text).symm, List.length_take_of_le (by omega)⟩
    · rintro ⟨rfl, rfl⟩
      exact ⟨List.take_left, List.drop_left⟩

theorem number_ok {read? : List Char → Option Nat} {n value : Nat} :
    (number read? n).run text = .ok (value, rest) ↔
      ∃ field, text = field ++ rest ∧ IsField read? n field value := by
  rw [number, bind_ok]
  constructor
  · rintro ⟨field, between, htake, h⟩
    obtain ⟨rfl, hlength⟩ := take_ok.mp htake
    split at h
    case h_1 value' hread =>
      obtain ⟨rfl, rfl⟩ := pure_ok.mp h
      exact ⟨field, rfl, hlength, hread⟩
    case h_2 => cases h
  · rintro ⟨field, rfl, hlength, hread⟩
    refine ⟨field, rest, take_ok.mpr ⟨rfl, hlength⟩, ?_⟩
    rw [hread]
    rfl

/-- What follows a choice of readers follows either of them. -/
theorem ite_bind (p : Prop) [Decidable p] (x y : Reader α) (f : α → Reader β) :
    (if p then x >>= f else y >>= f) = (if p then x else y) >>= f := by
  split <;> rfl

theorem run_get_bind (f : List Char → Reader α) : (get >>= f).run text = (f text).run text := rfl

theorem run_atEnd_bind (f : Bool → Reader α) :
    (atEnd >>= f).run text = (f text.isEmpty).run text := rfl

/-! ### Control bytes -/

/-- Bytes that end where the high bit of a byte says that no other one follows, or at a limit. -/
def ControlSeries : Nat → List UInt8 → Prop
  | 0, bytes => bytes = []
  | _ + 1, [] => False
  | limit + 1, b :: bytes => if 128 ≤ b.toNat then ControlSeries limit bytes else bytes = []

theorem controlSeries_iff {limit : Nat} {bytes : List UInt8} (hlimit : 0 < limit) :
    ControlSeries limit bytes ↔ ControlChain limit bytes := by
  obtain ⟨limit, rfl⟩ := Nat.exists_eq_succ_of_ne_zero (Nat.ne_of_gt hlimit)
  induction limit generalizing bytes with
  | zero =>
    cases bytes with
    | nil => exact iff_of_false nofun fun h => h.nonempty rfl
    | cons b more =>
      rw [ControlSeries, ControlSeries, ite_self]
      constructor
      · rintro rfl
        exact ⟨nofun, Nat.le_refl 1, nofun, fun h => absurd h (Nat.lt_irrefl 1)⟩
      · intro h
        exact List.eq_nil_of_length_eq_zero (Nat.le_zero.mp (Nat.le_of_succ_le_succ h.short))
  | succ limit ih =>
    cases bytes with
    | nil => exact iff_of_false nofun fun h => h.nonempty rfl
    | cons b more =>
      rw [ControlSeries, ih (Nat.succ_pos limit)]
      cases more with
      | nil =>
        -- a single byte ends the series, so that its high bit must be clear
        by_cases hhigh : 128 ≤ b.toNat
        · rw [if_pos hhigh]
          refine iff_of_false (fun h => h.nonempty rfl) fun h => ?_
          have hlow := h.ends (by simp) b rfl
          omega
        · rw [if_neg hhigh]
          refine iff_of_true rfl ⟨nofun, by simp, nofun, fun _ b' hb' => ?_⟩
          obtain rfl : b = b' := Option.some.inj hb'
          omega
      | cons b' more =>
        have hlast : (b :: b' :: more).getLast? = (b' :: more).getLast? := List.getLast?_cons_cons
        have hfront : (b :: b' :: more).dropLast = b :: (b' :: more).dropLast := rfl
        by_cases hhigh : 128 ≤ b.toNat
        · rw [if_pos hhigh]
          constructor
          · intro h
            refine ⟨nofun, Nat.succ_le_succ h.short, ?_, fun hlt => ?_⟩
            · rw [hfront]
              exact List.forall_mem_cons.mpr ⟨hhigh, h.goes_on⟩
            · rw [hlast]
              exact h.ends (Nat.lt_of_succ_lt_succ hlt)
          · intro h
            have hgoes := h.goes_on
            have hends := h.ends
            rw [hfront] at hgoes
            rw [hlast] at hends
            exact ⟨nofun, Nat.le_of_succ_le_succ h.short, (List.forall_mem_cons.mp hgoes).2,
              fun hlt => hends (Nat.succ_lt_succ hlt)⟩
        · rw [if_neg hhigh]
          exact iff_of_false nofun fun h => hhigh (h.goes_on b (hfront ▸ List.mem_cons_self))

theorem controlBytes_ok {limit : Nat} {bytes : List UInt8} :
    (controlBytes limit).run text = .ok (bytes, rest) ↔
      ControlSeries limit bytes ∧
        ∃ fields, List.Forall₂ IsByteField fields bytes ∧ text = fields.flatten ++ rest := by
  induction limit generalizing text bytes with
  | zero =>
    rw [controlBytes, pure_ok, ControlSeries]
    constructor
    · rintro ⟨rfl, rfl⟩
      exact ⟨rfl, [], .nil, rfl⟩
    · rintro ⟨rfl, fields, hfields, rfl⟩
      cases hfields
      exact ⟨rfl, rfl⟩
  | succ limit ih =>
    rw [controlBytes, bind_ok]
    constructor
    · rintro ⟨b, between, hbyte, h⟩
      obtain ⟨field, rfl, hfield⟩ := number_ok.mp hbyte
      dsimp only at h
      rw [ite_bind, bind_ok] at h
      obtain ⟨more, between', hmore, h⟩ := h
      obtain ⟨rfl, rfl⟩ := pure_ok.mp h
      have hb : (UInt8.ofNat b).toNat = b :=
        UInt8.toNat_ofNat_of_lt (Numeral.read?_lt hfield.read_eq)
      have hfield' : IsByteField field (UInt8.ofNat b) := by rwa [IsByteField, hb]
      rw [ControlSeries, hb]
      split at hmore
      case isTrue hhigh =>
        obtain ⟨hseries, fields, hfields, rfl⟩ := ih.mp hmore
        rw [if_pos hhigh]
        exact ⟨hseries, field :: fields, .cons hfield' hfields, (List.append_assoc _ _ _).symm⟩
      case isFalse hlow =>
        obtain ⟨rfl, rfl⟩ := pure_ok.mp hmore
        rw [if_neg hlow]
        exact ⟨rfl, [field], .cons hfield' .nil, by rw [List.flatten_singleton]⟩
    · rintro ⟨hseries, fields, hfields, rfl⟩
      cases hfields with
      | nil => exact hseries.elim
      | @cons field b fields more hfield hfields =>
        rw [ControlSeries] at hseries
        refine ⟨b.toNat, fields.flatten ++ rest,
          number_ok.mpr ⟨field, List.append_assoc _ _ _, hfield⟩, ?_⟩
        dsimp only
        rw [ite_bind, bind_ok]
        refine ⟨more, rest, ?_, pure_ok.mpr ⟨by rw [UInt8.ofNat_toNat], rfl⟩⟩
        split
        case isTrue hhigh =>
          rw [if_pos hhigh] at hseries
          exact ih.mpr ⟨hseries, fields, hfields, rfl⟩
        case isFalse hlow =>
          rw [if_neg hlow] at hseries
          subst hseries
          cases hfields
          exact pure_ok.mpr ⟨rfl, rfl⟩

/-! ### Data elements -/

theorem element_ok {data : List Char} :
    element.run text = .ok (data, rest) ↔
      ∃ field, IsLengthField field data ∧ text = field ++ (data ++ rest) := by
  rw [element, bind_ok]
  constructor
  · rintro ⟨n, between, hnumber, h⟩
    obtain ⟨field, rfl, hfield⟩ := number_ok.mp hnumber
    obtain ⟨rfl, hlength⟩ := take_ok.mp h
    exact ⟨field, ⟨n, hfield, hlength.symm⟩, rfl⟩
  · rintro ⟨field, ⟨n, hfield, hlength⟩, rfl⟩
    exact ⟨n, data ++ rest, number_ok.mpr ⟨field, rfl, hfield⟩, take_ok.mpr ⟨rfl, hlength.symm⟩⟩

theorem elements_ok {limit : Nat} {parts : List (List Char)} :
    (elements limit).run text = .ok (parts, rest) ↔
      parts.length ≤ limit ∧ (parts.length < limit → rest = []) ∧
        ∃ fields, List.Forall₂ IsLengthField fields parts ∧
          text = (List.zipWith (· ++ ·) fields parts).flatten ++ rest := by
  induction limit generalizing text parts with
  | zero =>
    rw [elements, pure_ok, Nat.le_zero, List.length_eq_zero_iff]
    constructor
    · rintro ⟨rfl, rfl⟩
      exact ⟨rfl, nofun, [], .nil, rfl⟩
    · rintro ⟨rfl, -, fields, hfields, rfl⟩
      cases hfields
      exact ⟨rfl, rfl⟩
  | succ limit ih =>
    rw [elements, run_atEnd_bind]
    constructor
    · intro h
      split at h
      case isTrue hempty =>
        obtain ⟨rfl, rfl⟩ := pure_ok.mp h
        exact ⟨Nat.zero_le _, fun _ => List.isEmpty_iff.mp hempty, [], .nil, rfl⟩
      case isFalse =>
        obtain ⟨data, between, helement, h⟩ := bind_ok.mp h
        obtain ⟨more, between', hmore, h⟩ := bind_ok.mp h
        obtain ⟨rfl, rfl⟩ := pure_ok.mp h
        obtain ⟨field, hfield, rfl⟩ := element_ok.mp helement
        obtain ⟨hfew, hrest, fields, hfields, rfl⟩ := ih.mp hmore
        refine ⟨Nat.succ_le_succ hfew, fun hlt => hrest (Nat.lt_of_succ_lt_succ hlt),
          field :: fields, .cons hfield hfields, ?_⟩
        simp only [List.zipWith_cons_cons, List.flatten_cons, List.append_assoc]
    · rintro ⟨hfew, hrest, fields, hfields, rfl⟩
      cases hfields with
      | nil =>
        rw [hrest (Nat.succ_pos limit)]
        exact pure_ok.mpr ⟨rfl, rfl⟩
      | @cons field data fields more hfield hfields =>
        have htext : (List.zipWith (· ++ ·) (field :: fields) (data :: more)).flatten ++ rest =
            field ++ (data ++ ((List.zipWith (· ++ ·) fields more).flatten ++ rest)) := by
          simp only [List.zipWith_cons_cons, List.flatten_cons, List.append_assoc]
        -- a length field has two characters, so that the text is not at its end
        have hne : ¬ (field ++ (data ++
            ((List.zipWith (· ++ ·) fields more).flatten ++ rest))).isEmpty = true := by
          intro hempty
          obtain ⟨_, hn, -⟩ := hfield
          have hlength := hn.length_eq
          rw [(List.append_eq_nil_iff.mp (List.isEmpty_iff.mp hempty)).1] at hlength
          cases hlength
        rw [htext, if_neg hne]
        refine bind_ok.mpr ⟨data, _, element_ok.mpr ⟨field, hfield, rfl⟩, ?_⟩
        refine bind_ok.mpr ⟨more, rest, ih.mpr ⟨Nat.le_of_succ_le_succ hfew, fun hlt =>
          hrest (Nat.succ_lt_succ hlt), fields, hfields, rfl⟩, pure_ok.mpr ⟨rfl, rfl⟩⟩

/-! ### Payloads -/

/-- The control bytes that a start length announces. -/
theorem announced_ok {format : Format} {n : Nat} {bytes : List UInt8} :
    (if format = .hhd14 ∧ 128 ≤ n then controlBytes maxControlBytes else pure [] :
        Reader (List UInt8)).run text = .ok (bytes, rest) ↔
      (if format = .hhd14 ∧ 128 ≤ n then ControlChain maxControlBytes bytes else bytes = []) ∧
        ∃ fields, List.Forall₂ IsByteField fields bytes ∧ text = fields.flatten ++ rest := by
  split
  case isTrue => rw [controlBytes_ok, controlSeries_iff (by decide)]
  case isFalse =>
    rw [pure_ok]
    constructor
    · rintro ⟨rfl, rfl⟩
      exact ⟨rfl, [], .nil, rfl⟩
    · rintro ⟨rfl, fields, hfields, rfl⟩
      cases hfields
      exact ⟨rfl, rfl⟩

/-- A payload reads as a code exactly if it has a layout that describes the code. -/
theorem code_ok {format : Format} {c : Code} :
    (∃ rest, (code format).run text = .ok (c, rest)) ↔
      c.format = format ∧ ∃ l : Layout, l.Describes c ∧ text = l.text c := by
  constructor
  · rintro ⟨rest, h⟩
    rw [code, bind_ok] at h
    obtain ⟨length, payload, hlength, h⟩ := h
    obtain ⟨total, rfl, htotal⟩ := number_ok.mp hlength
    rw [run_get_bind] at h
    dsimp only at h
    split at h
    case isTrue => cases h
    case isFalse hdeclared =>
      rw [bind_ok] at h
      obtain ⟨n, afterLength, hstart, h⟩ := h
      obtain ⟨start, rfl, hfield⟩ := number_ok.mp hstart
      rw [ite_bind, bind_ok] at h
      obtain ⟨bytes, afterControl, hcontrol, h⟩ := h
      obtain ⟨hchain, control, hbytes, rfl⟩ := announced_ok.mp hcontrol
      rw [bind_ok] at h
      obtain ⟨startCode, afterStart, htake, h⟩ := h
      obtain ⟨rfl, hstartCode⟩ := take_ok.mp htake
      rw [bind_ok] at h
      obtain ⟨parts, afterElements, helements, h⟩ := h
      obtain ⟨hfew, hrest, fields, hfields, rfl⟩ := elements_ok.mp helements
      rw [run_get_bind] at h
      obtain ⟨rfl, rfl⟩ := pure_ok.mp h
      exact ⟨rfl, ⟨total, start, control, fields⟩,
        ⟨htotal, Decidable.not_not.mp hdeclared, ⟨n, hfield, hstartCode.symm, hchain⟩, hbytes,
          hfields, hfew, hrest⟩, rfl⟩
  · rintro ⟨rfl, ⟨total, start, control, fields⟩, h, rfl⟩
    obtain ⟨htotal, hlength, ⟨n, hfield, hstartCode, hchain⟩, hbytes, hfields, hfew, hrest⟩ := h
    refine ⟨c.rest, ?_⟩
    rw [code, bind_ok]
    refine ⟨c.length, _, number_ok.mpr ⟨total, rfl, htotal⟩, ?_⟩
    rw [run_get_bind]
    dsimp only
    rw [if_neg (not_not_intro hlength)]
    refine bind_ok.mpr ⟨n, _, number_ok.mpr ⟨start, rfl, hfield⟩, ?_⟩
    rw [ite_bind]
    refine bind_ok.mpr
      ⟨c.controlBytes, _, announced_ok.mpr ⟨hchain, control, hbytes, rfl⟩, ?_⟩
    refine bind_ok.mpr ⟨c.startCode, _, take_ok.mpr ⟨rfl, hstartCode.symm⟩, ?_⟩
    refine bind_ok.mpr ⟨c.elements, c.rest,
      elements_ok.mpr ⟨hfew, hrest, fields, hfields, rfl⟩, ?_⟩
    rw [run_get_bind]
    exact pure_ok.mpr ⟨rfl, rfl⟩

end Reader

namespace Code

/-- A text reads in a format exactly if what is left of it after cleaning is ASCII and has a
layout. -/
theorem readAs_eq_ok_iff {format : Format} {text : List Char} {c : Code} :
    readAs format text = .ok c ↔
      c.format = format ∧ (∀ char ∈ clean text, char.toNat < 128) ∧
        ∃ l : Layout, l.Describes c ∧ clean text = l.text c := by
  have hrun : ((Reader.code format).run (clean text)).map Prod.fst = .ok c ↔
      ∃ rest, (Reader.code format).run (clean text) = .ok (c, rest) := by
    rcases (Reader.code format).run (clean text) with e | ⟨read, rest⟩
    · exact iff_of_false nofun nofun
    · simp [Except.map]
  by_cases hascii : ∀ char ∈ clean text, char.toNat < 128
  · have hall : (clean text).all (·.toNat < 128) = true := by simpa using hascii
    simp only [readAs, if_pos hall, hrun, Reader.code_ok]
    exact and_congr_right fun _ => (and_iff_right hascii).symm
  · have hall : ¬ (clean text).all (·.toNat < 128) = true := by simpa using hascii
    simp only [readAs, if_neg hall]
    exact iff_of_false nofun fun h => hascii h.2.1

end Code

end TanDialog.Flicker
