import Mathlib.Data.List.DropRight
import Mathlib.Data.List.GetD
import TanDialog.Challenge.Class
import TanDialog.Proofs.Challenge.Amounts
import TanDialog.Proofs.Challenge.Dates

/-!
# The positions of a challenge class

The TAN generator tells the values of an order apart by their positions alone. `parameters` keeps
them: what it fills in stands at the position of its parameter (`Parameter.Shows`), and only empty
texts behind the last nonempty one are left out, which are read as empty anyway
(`trimEmpty_eq_iff`). It refuses a task where a malformed value is taken, unless a plus sign in the
value of a date is mistaken for a digit (`Class.fill?_eq_none_iff`).
-/

namespace TanDialog.Challenge

/-! ### Cutting off at the end -/

/-- Two lists that do not end in an empty text are the same if they have the same texts at all
positions, where missing ones count as empty. -/
theorem eq_of_getD_eq {l m : List String} (hl : l.getLast? ≠ some "") (hm : m.getLast? ≠ some "")
    (h : ∀ i, l.getD i "" = m.getD i "") : l = m := by
  have hle {l m : List String} (hm : m.getLast? ≠ some "") (h : ∀ i, l.getD i "" = m.getD i "") :
      m.length ≤ l.length := by
    by_contra hlt
    have hi : m.length - 1 < m.length := by omega
    have hlast := h (m.length - 1)
    rw [List.getD_eq_default _ _ (by omega), List.getD_eq_getElem _ _ hi] at hlast
    refine hm ?_
    rw [List.getLast?_eq_getElem?, List.getElem?_eq_getElem hi, ← hlast]
  have hlength := Nat.le_antisymm (hle hl fun i => (h i).symm) (hle hm h)
  refine List.ext_getElem hlength fun i hi hi' => ?_
  rw [← List.getD_eq_getElem l "" hi, h i, List.getD_eq_getElem m "" hi']

theorem trimEmpty_prefix (values : List String) : trimEmpty values <+: values :=
  List.rdropWhile_prefix String.isEmpty values

theorem getD_trimEmpty (values : List String) (i : Nat) :
    (trimEmpty values).getD i "" = values.getD i "" := by
  have hsplit : trimEmpty values ++ values.rtakeWhile String.isEmpty = values :=
    List.rdropWhile_append_rtakeWhile
  generalize trimEmpty values = left at hsplit
  have hempty (j : Nat) : (values.rtakeWhile String.isEmpty).getD j "" = "" := by
    rcases Nat.lt_or_ge j (values.rtakeWhile String.isEmpty).length with hj | hj
    · rw [List.getD_eq_getElem _ _ hj]
      simpa using List.mem_rtakeWhile_imp (List.getElem_mem hj)
    · exact List.getD_eq_default _ _ hj
  generalize values.rtakeWhile String.isEmpty = cut at hsplit hempty
  subst hsplit
  rcases Nat.lt_or_ge i left.length with hi | hi
  · rw [List.getD_append _ _ _ _ hi]
  · rw [List.getD_append_right _ _ _ _ hi, hempty, List.getD_eq_default _ _ hi]

theorem getLast?_trimEmpty (values : List String) : (trimEmpty values).getLast? ≠ some "" := by
  intro hlast
  rw [trimEmpty, List.getLast?_reverse] at hlast
  have hfirst := List.head?_dropWhile_not String.isEmpty values.reverse
  rw [hlast] at hfirst
  cases hfirst

/-- What is left keeps its positions and ends with a nonempty text. -/
theorem trimEmpty_eq_iff {values left : List String} :
    trimEmpty values = left ↔
      (∀ i, left.getD i "" = values.getD i "") ∧ left.getLast? ≠ some "" := by
  constructor
  · rintro rfl
    exact ⟨getD_trimEmpty values, getLast?_trimEmpty values⟩
  · rintro ⟨hget, hlast⟩
    exact eq_of_getD_eq (getLast?_trimEmpty values) hlast
      fun i => (getD_trimEmpty values i).trans (hget i).symm

/-! ### Filling in -/

section

variable {α β : Type} {f : α → Option β} {l : List α}

theorem mapM_eq_some_iff {m : List β} : l.mapM f = some m ↔ l.map f = m.map some := by
  induction l generalizing m with
  | nil => cases m <;> simp
  | cons a l ih =>
    rw [List.mapM_cons]
    cases ha : f a with
    | none => cases m <;> simp [ha]
    | some b =>
      cases hl : l.mapM f with
      | none => cases m <;> simp [← ih, hl]
      | some bs => cases m <;> simp [← ih, hl, ha]

theorem mapM_eq_none_iff : l.mapM f = none ↔ ∃ a ∈ l, f a = none := by
  induction l with
  | nil => simp
  | cons a l ih =>
    rw [List.mapM_cons]
    cases ha : f a with
    | none => simp [ha]
    | some b => cases hl : l.mapM f <;> simp_all

end

/-! ### What stands at a position -/

variable {t : Task} {m : Method}

namespace ParameterType

variable {type : ParameterType} {value text : String}

/-- How a value is written: plain ones as they are, amounts with a comma in the place of the point
and without zeros at the end, dates without their hyphens. -/
inductive Writes : ParameterType → String → String → Prop
  | plain (value : String) : Writes .plain value value
  | amount {value text : String} {whole fraction : List Char}
      (hvalue : IsAmountOf value.toList whole fraction)
      (htext : text.toList = whole ++ ',' :: fraction) : Writes .amount value text
  | date {value text : String} {year month day : List Char}
      (hvalue : IsDateOf value.toList year month day)
      (htext : text.toList = year ++ month ++ day) : Writes .date value text

/-- A text that is no value of the type: no run of digits, with or without a point in it, or no date
of four, two and two digits. -/
def Malformed : ParameterType → String → Prop
  | plain, _ => False
  | amount, value => ¬IsAmount value.toList
  | date, value => ¬∃ year month day, IsPlainDateOf value.toList year month day

/-- A text that is taken for a date although a plus sign stands in it for a digit. -/
def Mistaken : ParameterType → String → Prop
  | date, value => '+' ∈ value.toList ∧ ∃ year month day, IsDateOf value.toList year month day
  | _, _ => False

theorem format?_eq_some_iff : type.format? value = some text ↔ type.Writes value text := by
  cases type with
  | plain =>
    constructor
    · intro h
      obtain rfl := Option.some.inj h
      exact .plain value
    · rintro ⟨⟩
      rfl
  | amount =>
    rw [format?_amount_eq_some_iff, formatAmount?_eq_some_iff_isAmountOf]
    constructor
    · rintro ⟨whole, fraction, hvalue, htext⟩
      exact .amount hvalue htext
    · rintro ⟨⟩
      exact ⟨_, _, ‹_›, ‹_›⟩
  | date =>
    rw [format?_date_eq_some_iff, formatDate?_eq_some_iff]
    constructor
    · rintro ⟨year, month, day, hvalue, htext⟩
      exact .date hvalue htext
    · rintro ⟨⟩
      exact ⟨_, _, _, ‹_›, ‹_›⟩

/-- A malformed text is refused, unless it is taken for a date. -/
theorem format?_eq_none_iff :
    type.format? value = none ↔ type.Malformed value ∧ ¬type.Mistaken value := by
  cases type with
  | plain => exact iff_of_false nofun fun h => h.1
  | amount =>
    rw [format?, Option.map_eq_none_iff, formatAmount?_eq_none_iff]
    exact (and_iff_left not_false).symm
  | date =>
    rw [format?, Option.map_eq_none_iff, formatDate?_eq_none_iff, Malformed, Mistaken,
      exists_isPlainDateOf_iff]
    by_cases hplus : '+' ∈ value.toList <;> simp [hplus]

end ParameterType

namespace Parameter

variable {p : Parameter}

theorem appliesTo_iff :
    p.appliesTo m ↔ p.conditional = false ∨ m.attr? "needchallengevalue" = some "J" := by
  simp [appliesTo, Method.needsChallengeValue]

/-- A parameter takes a value from a task: it applies to the method, which has to ask for it if it
is conditional, and the task has a nonempty value for it. -/
structure Takes (p : Parameter) (t : Task) (m : Method) (value : String) : Prop where
  applies : p.conditional = false ∨ m.attr? "needchallengevalue" = some "J"
  get : t.params.get? p.path = some value
  nonempty : value ≠ ""

/-- The text at the position of a parameter is the value it takes, written in its type, and the
empty text if it takes none. -/
def Shows (p : Parameter) (t : Task) (m : Method) (text : String) : Prop :=
  (∃ value, p.Takes t m value ∧ p.type.Writes value text) ∨
    ((¬∃ value, p.Takes t m value) ∧ text = "")

theorem Takes.value?_eq {value : String} (h : p.Takes t m value) :
    p.value? t m = p.type.format? value := by
  have hget : t.params.getNonEmpty? p.path = some value := by
    rw [PropertySet.getNonEmpty?, h.get]
    simp [h.nonempty]
  rw [value?, hget]
  exact if_pos (appliesTo_iff.mpr h.applies)

theorem value?_eq_of_not_takes (h : ¬∃ value, p.Takes t m value) : p.value? t m = some "" := by
  rw [value?]
  split
  case h_1 value hget =>
    obtain ⟨hvalue, hne⟩ := Option.filter_eq_some_iff.mp hget
    rw [if_neg]
    exact fun happlies => h ⟨value, appliesTo_iff.mp happlies, hvalue, by simpa using hne⟩
  case h_2 => rfl

theorem value?_eq_some_iff {text : String} : p.value? t m = some text ↔ p.Shows t m text := by
  by_cases h : ∃ value, p.Takes t m value
  · obtain ⟨value, hvalue⟩ := h
    rw [hvalue.value?_eq, ParameterType.format?_eq_some_iff]
    constructor
    · intro hwritten
      exact .inl ⟨value, hvalue, hwritten⟩
    · rintro (⟨value', hvalue', hwritten⟩ | ⟨hnone, -⟩)
      · obtain rfl : value = value' := Option.some.inj (hvalue.get.symm.trans hvalue'.get)
        exact hwritten
      · exact absurd ⟨value, hvalue⟩ hnone
  · rw [value?_eq_of_not_takes h, Option.some.injEq, eq_comm]
    constructor
    · intro htext
      exact .inr ⟨h, htext⟩
    · rintro (⟨value, hvalue, -⟩ | ⟨-, htext⟩)
      · exact absurd ⟨value, hvalue⟩ h
      · exact htext

theorem value?_eq_none_iff :
    p.value? t m = none ↔
      ∃ value, p.Takes t m value ∧ p.type.Malformed value ∧ ¬p.type.Mistaken value := by
  constructor
  · intro hnone
    by_cases h : ∃ value, p.Takes t m value
    · obtain ⟨value, hvalue⟩ := h
      exact ⟨value, hvalue,
        ParameterType.format?_eq_none_iff.mp (hvalue.value?_eq.symm.trans hnone)⟩
    · rw [value?_eq_of_not_takes h] at hnone
      cases hnone
  · rintro ⟨value, hvalue, hmalformed⟩
    exact hvalue.value?_eq.trans (ParameterType.format?_eq_none_iff.mpr hmalformed)

end Parameter

/-! ### Filling in a class -/

variable {c : Class}

theorem Class.fill?_eq_none_iff :
    c.fill? t m = none ↔
      ∃ p ∈ c.parameters, ∃ value,
        p.Takes t m value ∧ p.type.Malformed value ∧ ¬p.type.Mistaken value := by
  rw [Class.fill?, Option.map_eq_none_iff, mapM_eq_none_iff]
  simp only [Parameter.value?_eq_none_iff]

/-- The texts that a class is filled in with: each parameter finds its own at its position, and the
last one is not empty. -/
structure Class.FilledWith (c : Class) (t : Task) (m : Method) (texts : List String) : Prop where
  length_le : texts.length ≤ c.parameters.length
  shows : ∀ i (p : Parameter), c.parameters[i]? = some p → p.Shows t m (texts.getD i "")
  getLast? : texts.getLast? ≠ some ""

theorem Class.fill?_eq_some_iff {filled : Filled} :
    c.fill? t m = some filled ↔ filled.id = c.id ∧ c.FilledWith t m filled.values := by
  obtain ⟨id, texts⟩ := filled
  simp only [Class.fill?, Option.map_eq_some_iff, mapM_eq_some_iff]
  constructor
  · rintro ⟨values, hvalues, heq⟩
    obtain ⟨rfl, rfl⟩ := Filled.mk.inj heq
    have hlength : c.parameters.length = values.length := by
      simpa using congrArg List.length hvalues
    refine ⟨rfl, ?_, fun i p hp => ?_, getLast?_trimEmpty values⟩
    · have hprefix := trimEmpty_prefix values
      exact hlength ▸ hprefix.length_le
    · have hvalue := congrArg (·[i]?) hvalues
      simp only [List.getElem?_map, hp, Option.map_some] at hvalue
      obtain ⟨text, htext, hshows⟩ := Option.map_eq_some_iff.mp hvalue.symm
      rw [← Parameter.value?_eq_some_iff, getD_trimEmpty, List.getD_eq_getElem?_getD, htext,
        ← hshows, Option.getD_some]
  · rintro ⟨rfl, hfilled⟩
    refine ⟨(List.range c.parameters.length).map fun i => texts.getD i "", ?_, ?_⟩
    · refine List.ext_getElem (by simp) fun i hi _ => ?_
      rw [List.length_map] at hi
      have hshows := hfilled.shows i _ (List.getElem?_eq_getElem hi)
      simpa using Parameter.value?_eq_some_iff.mpr hshows
    · refine congrArg (Filled.mk c.id) (trimEmpty_eq_iff.mpr ⟨fun i => ?_, hfilled.getLast?⟩)
      rcases Nat.lt_or_ge i c.parameters.length with hi | hi
      · simp [List.getD_eq_getElem?_getD, hi]
      · rw [List.getD_eq_default texts _ (Nat.le_trans hfilled.length_le hi),
          List.getD_eq_default _ _ (by simpa using hi)]

/-! ### The table -/

theorem nodup_keys_table : (table.map Prod.fst).Nodup := by decide

/-- No row of the table stands in the way of another one. -/
theorem lookup?_eq_some_iff {code : String} {version : Version} :
    lookup? code version = some c ↔ ((code, version), c) ∈ table := by
  rw [lookup?, List.lookup_eq_some_iff]
  constructor
  · rintro ⟨before, behind, htable, -⟩
    simp [htable]
  · intro hmem
    obtain ⟨before, behind, htable⟩ := List.append_of_mem hmem
    refine ⟨before, behind, htable, fun row hrow => ?_⟩
    have hnodup := nodup_keys_table
    rw [htable, List.map_append, List.map_cons, List.nodup_append] at hnodup
    have hne := hnodup.2.2 _ (List.mem_map_of_mem hrow) _ List.mem_cons_self
    simpa using hne.symm

theorem lookup?_eq_none_iff {code : String} {version : Version} :
    lookup? code version = none ↔ ∀ row ∈ table, row.1 ≠ (code, version) := by
  rw [lookup?, List.lookup_eq_none_iff]
  simp only [bne_iff_ne, ne_comm]

/-- **Positions.** There is no challenge class where the table has no row for the task and the
version of the method. A task is refused if and only if a parameter of its row that applies to the
method takes a malformed amount or date, unless that is taken for a date although a plus sign stands
in it for a digit. Otherwise the row's class is filled in with one text for each position, each the
value that the parameter takes, as it is written in its type, or else empty, as far as the last one
that is not empty. -/
theorem parameters_at_positions (t : Task) (m : Method) :
    (parameters t m = .unknown ↔ ∀ row ∈ table, row.1 ≠ (t.code, Version.ofMethod m)) ∧
    (parameters t m = .invalid ↔
      ∃ c, ((t.code, Version.ofMethod m), c) ∈ table ∧ ∃ p ∈ c.parameters, ∃ value,
        p.Takes t m value ∧ p.type.Malformed value ∧ ¬p.type.Mistaken value) ∧
    ∀ filled, parameters t m = .filled filled ↔
      ∃ c, ((t.code, Version.ofMethod m), c) ∈ table ∧ filled.id = c.id ∧
        c.FilledWith t m filled.values := by
  rw [← lookup?_eq_none_iff]
  simp only [← lookup?_eq_some_iff]
  cases hlookup : lookup? t.code (.ofMethod m) with
  | none =>
    have hunknown : parameters t m = .unknown := by simp only [parameters, hlookup]
    simp [hunknown]
  | some c =>
    cases hfill : c.fill? t m with
    | none =>
      have hinvalid : parameters t m = .invalid := by simp only [parameters, hlookup, hfill]
      rw [hinvalid]
      refine ⟨by simp, iff_of_true rfl ?_, fun filled => iff_of_false (by simp) ?_⟩
      · exact ⟨c, rfl, Class.fill?_eq_none_iff.mp hfill⟩
      · rintro ⟨c', hc', hfilled⟩
        obtain rfl : c = c' := Option.some.inj hc'
        rw [Class.fill?_eq_some_iff.mpr hfilled] at hfill
        cases hfill
    | some filled =>
      have hfilled : parameters t m = .filled filled := by simp only [parameters, hlookup, hfill]
      rw [hfilled]
      refine ⟨by simp, iff_of_false (by simp) ?_, fun filled' => ?_⟩
      · rintro ⟨c', hc', hrefused⟩
        obtain rfl : c = c' := Option.some.inj hc'
        rw [Class.fill?_eq_none_iff.mpr hrefused] at hfill
        cases hfill
      · simp only [Option.some.injEq, exists_eq_left', ← Class.fill?_eq_some_iff, hfill,
          Outcome.filled.injEq]

/-- A scheduled transfer under HHD 1.4. -/
def scheduledTransfer (date : String) : Task where
  code := "HKTUE"
  version := 1
  params := .ofList [("Other.number", "4711"), ("BTG.value", "12.30"), ("date", date)]

/-- A month out of range is refused. A plus sign in the place of a digit is not, and is shown. -/
theorem parameters_at_positions_scheduled :
    let m : Method := ⟨"912", 5, .ofList [("zkamethod_version", "1.4")]⟩
    let date : Parameter := { path := "date", type := .date }
    parameters (scheduledTransfer "2011-13-01") m = .invalid ∧
      date.type.Malformed "+201-05-20" ∧
      parameters (scheduledTransfer "+201-05-20") m ≠ .invalid ∧
      date.Shows (scheduledTransfer "+201-05-20") m "+2010520" := by
  intro m date
  have htakes : date.Takes (scheduledTransfer "2011-13-01") m "2011-13-01" :=
    ⟨.inl rfl, by decide, by decide⟩
  have hrefused : date.type.Malformed "2011-13-01" ∧ ¬date.type.Mistaken "2011-13-01" :=
    ParameterType.format?_eq_none_iff.mp (by decide +kernel)
  have hfilled : parameters (scheduledTransfer "+201-05-20") m =
      .filled ⟨"05", ["4711", "", "12,3", "+2010520"]⟩ := by decide +kernel
  refine ⟨?_, ?_, by simp [hfilled], ?_⟩
  · exact (parameters_at_positions (scheduledTransfer "2011-13-01") m).2.1.mpr
      ⟨_, lookup?_eq_some_iff.mp rfl, date, by decide, _, htakes, hrefused⟩
  · rintro ⟨year, month, day, hdate⟩
    exact (isPlainDateOf_iff.mp hdate).2 (by decide)
  · obtain ⟨c, hc, -, hshown⟩ :=
      ((parameters_at_positions (scheduledTransfer "+201-05-20") m).2.2 _).mp hfilled
    obtain rfl := Option.some.inj (lookup?_eq_some_iff.mpr hc)
    exact hshown.shows 3 date rfl

/-- The amount is left out for a method that does not ask for it, and the account number stays in
the second position. -/
example :
    let m : Method := ⟨"912", 5, .ofList [("zkamethod_version", "1.3")]⟩
    let params : PropertySet := .ofList [("Other.number", "4711"), ("BTG.value", "12.30")]
    parameters { code := "HKAOM", version := 4, params } m = .filled ⟨"20", ["", "4711"]⟩ := by
  decide +kernel

end TanDialog.Challenge
