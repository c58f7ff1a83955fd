/-!
# Dictionaries

A dictionary maps finitely many text keys to values and keeps its entries in increasing order of
the keys, the order of their code points and so of their UTF-8 bytes. The order is a part of the
type: two dictionaries with the same value at every key are equal (`Dictionary.ext_get?`), however
they were built. Each operation comes with its effect on `get?`.
-/

namespace TanDialog

/-- A finite map with text keys, its entries in strictly increasing order of the keys. -/
structure Dictionary (α : Type) where
  entries : List (String × α)
  sorted : entries.Pairwise fun a b => a.1 < b.1
deriving DecidableEq

namespace Dictionary

variable {α : Type}

theorem ext_entries {d e : Dictionary α} (h : d.entries = e.entries) : d = e := by
  cases d; cases e; cases h; rfl

/-- The dictionary without entries. -/
def empty : Dictionary α := ⟨[], .nil⟩

instance : EmptyCollection (Dictionary α) := ⟨empty⟩

instance : Inhabited (Dictionary α) := ⟨empty⟩

/-- The keys, in increasing order. -/
def keys (d : Dictionary α) : List String := d.entries.map Prod.fst

/-- The values, in the order of their keys. -/
def values (d : Dictionary α) : List α := d.entries.map Prod.snd

/-- The number of entries. -/
def size (d : Dictionary α) : Nat := d.entries.length

/-- Whether there is no entry. -/
def isEmpty (d : Dictionary α) : Bool := d.entries.isEmpty

/-! ### Looking up -/

/-- The value of the first entry with a key. -/
def lookup (key : String) : List (String × α) → Option α
  | [] => none
  | (k, v) :: rest => if k = key then some v else lookup key rest

/-- The value at a key. -/
def get? (d : Dictionary α) (key : String) : Option α := lookup key d.entries

/-- Whether a key has a value. -/
def contains (d : Dictionary α) (key : String) : Bool := (d.get? key).isSome

theorem lookup_eq_none_of_lt {key : String} {l : List (String × α)}
    (h : ∀ e ∈ l, key < e.1) : lookup key l = none := by
  induction l with
  | nil => rfl
  | cons e rest ih =>
    have hne : e.1 ≠ key := fun he => String.lt_irrefl key (he ▸ h e (by simp))
    simp [lookup, hne, ih fun e he => h e (by simp [he])]

theorem mem_of_lookup {key : String} {v : α} {l : List (String × α)}
    (h : lookup key l = some v) : (key, v) ∈ l := by
  induction l with
  | nil => cases h
  | cons e rest ih =>
    unfold lookup at h
    split at h
    case isTrue hk => cases h; cases hk; simp
    case isFalse => simp [ih h]

/-- An entry is found under its key. -/
theorem get?_eq_some_iff {d : Dictionary α} {key : String} {v : α} :
    d.get? key = some v ↔ (key, v) ∈ d.entries := by
  refine ⟨mem_of_lookup, fun h => ?_⟩
  obtain ⟨l, hs⟩ := d
  simp only [get?] at h ⊢
  induction l with
  | nil => cases h
  | cons e rest ih =>
    rw [List.pairwise_cons] at hs
    rcases List.mem_cons.mp h with rfl | hr
    · simp [lookup]
    · have hlt : e.1 < key := hs.1 (key, v) hr
      have hne : e.1 ≠ key := fun he => String.lt_irrefl key (he ▸ hlt)
      simp [lookup, hne, ih hs.2 hr]

/-- A dictionary is determined by its look-ups. -/
theorem ext_get? {d e : Dictionary α} (h : ∀ key, d.get? key = e.get? key) : d = e := by
  obtain ⟨l, hl⟩ := d
  obtain ⟨m, hm⟩ := e
  apply ext_entries
  simp only [get?] at h ⊢
  induction l generalizing m with
  | nil =>
    cases m with
    | nil => rfl
    | cons e rest => have := h e.1; simp [lookup] at this
  | cons a l ih =>
    cases m with
    | nil => have := h a.1; simp [lookup] at this
    | cons b m =>
      rw [List.pairwise_cons] at hl hm
      have hab : ¬ a.1 < b.1 := fun hlt => by
        have hnone : lookup a.1 (b :: m) = none := lookup_eq_none_of_lt fun e he => by
          rcases List.mem_cons.mp he with rfl | he
          · exact hlt
          · exact String.lt_trans hlt (hm.1 _ he)
        have := h a.1
        rw [hnone] at this
        simp [lookup] at this
      have hba : ¬ b.1 < a.1 := fun hlt => by
        have hnone : lookup b.1 (a :: l) = none := lookup_eq_none_of_lt fun e he => by
          rcases List.mem_cons.mp he with rfl | he
          · exact hlt
          · exact String.lt_trans hlt (hl.1 _ he)
        have := h b.1
        rw [hnone] at this
        simp [lookup] at this
      have hkey : a.1 = b.1 := by
        rw [String.not_lt] at hab hba
        exact Std.le_antisymm hba hab
      have hval : a.2 = b.2 := by
        have := h a.1
        simpa [lookup, ← hkey] using this
      have hrest : l = m := ih hl.2 m hm.2 fun key => by
        by_cases hk : a.1 = key
        · subst hk
          rw [lookup_eq_none_of_lt hl.1, lookup_eq_none_of_lt fun e he => hkey ▸ hm.1 e he]
        · have := h key
          simpa [lookup, hk, ← hkey] using this
      rw [hrest, Prod.ext hkey hval]

@[simp]
theorem get?_empty (key : String) : (∅ : Dictionary α).get? key = none := rfl

/-! ### Inserting -/

/-- Puts a value at a key of a sorted list of entries. -/
def insertEntry (key : String) (value : α) : List (String × α) → List (String × α)
  | [] => [(key, value)]
  | (k, v) :: rest =>
    if key < k then (key, value) :: (k, v) :: rest
    else if k = key then (key, value) :: rest
    else (k, v) :: insertEntry key value rest

theorem mem_insertEntry {key : String} {value : α} {e : String × α} {l : List (String × α)}
    (h : e ∈ insertEntry key value l) : e = (key, value) ∨ e ∈ l := by
  induction l with
  | nil => simpa [insertEntry] using h
  | cons a rest ih =>
    unfold insertEntry at h
    split at h
    · simpa using h
    · split at h
      · rcases List.mem_cons.mp h with h | h
        · exact .inl h
        · exact .inr (by simp [h])
      · rcases List.mem_cons.mp h with h | h
        · exact .inr (by simp [h])
        · exact (ih h).imp_right fun h => by simp [h]

theorem insertEntry_sorted (key : String) (value : α) {l : List (String × α)}
    (h : l.Pairwise fun a b => a.1 < b.1) :
    (insertEntry key value l).Pairwise fun a b => a.1 < b.1 := by
  induction l with
  | nil => simp [insertEntry]
  | cons a rest ih =>
    rw [List.pairwise_cons] at h
    unfold insertEntry
    split
    case isTrue hlt =>
      refine List.pairwise_cons.mpr ⟨fun e he => ?_, List.pairwise_cons.mpr h⟩
      rcases List.mem_cons.mp he with rfl | he
      · exact hlt
      · exact String.lt_trans hlt (h.1 e he)
    case isFalse hlt =>
      split
      case isTrue heq => exact List.pairwise_cons.mpr ⟨fun e he => heq ▸ h.1 e he, h.2⟩
      case isFalse hne =>
        refine List.pairwise_cons.mpr ⟨fun e he => ?_, ih h.2⟩
        rcases mem_insertEntry he with rfl | he
        · exact Std.lt_of_le_of_ne (String.not_lt.mp hlt) hne
        · exact h.1 e he

theorem lookup_insertEntry (key : String) (value : α) (l : List (String × α)) (k : String) :
    lookup k (insertEntry key value l) = if k = key then some value else lookup k l := by
  induction l with
  | nil => simp [insertEntry, lookup, eq_comm]
  | cons a rest ih =>
    unfold insertEntry
    split
    · simp [lookup, eq_comm]
    · split
      case isTrue heq =>
        subst heq
        by_cases hk : k = a.1
        · simp [lookup, hk]
        · simp [lookup, hk, eq_comm]
      case isFalse hne =>
        by_cases hk : k = key
        · subst hk; simp [lookup, hne, ih]
        · by_cases ha : a.1 = k <;> simp [lookup, ha, ih, hk]

/-- Puts a value at a key, replacing the one that is there. -/
def insert (d : Dictionary α) (key : String) (value : α) : Dictionary α :=
  ⟨insertEntry key value d.entries, insertEntry_sorted key value d.sorted⟩

theorem get?_insert (d : Dictionary α) (key k : String) (value : α) :
    (d.insert key value).get? k = if k = key then some value else d.get? k :=
  lookup_insertEntry key value d.entries k

@[simp]
theorem get?_insert_self (d : Dictionary α) (key : String) (value : α) :
    (d.insert key value).get? key = some value := by
  simp [get?_insert]

theorem get?_insert_of_ne (d : Dictionary α) {key k : String} (value : α) (h : k ≠ key) :
    (d.insert key value).get? k = d.get? k := by
  simp [get?_insert, h]

/-- Inserts entries one after the other, so that a later entry replaces an earlier one. -/
def insertAll (d : Dictionary α) (entries : List (String × α)) : Dictionary α :=
  entries.foldl (fun d e => d.insert e.1 e.2) d

/-- The dictionary of some entries, of which the last one for each key counts. -/
def ofList (entries : List (String × α)) : Dictionary α := insertAll ∅ entries

@[simp]
theorem insertAll_nil (d : Dictionary α) : d.insertAll [] = d := rfl

@[simp]
theorem insertAll_cons (d : Dictionary α) (e : String × α) (l : List (String × α)) :
    d.insertAll (e :: l) = (d.insert e.1 e.2).insertAll l := rfl

theorem insertAll_append (d : Dictionary α) (l m : List (String × α)) :
    d.insertAll (l ++ m) = (d.insertAll l).insertAll m := by
  simp [insertAll]

/-! ### Removing -/

/-- The dictionary without the value at a key. -/
def erase (d : Dictionary α) (key : String) : Dictionary α :=
  ⟨d.entries.filter (·.1 ≠ key), d.sorted.filter _⟩

end Dictionary

/-- A finite set of names, in increasing order. -/
abbrev NameSet := Dictionary Unit

namespace NameSet

/-- The set of the names in a list. -/
def ofNames (names : List String) : NameSet := Dictionary.ofList (names.map fun n => (n, ()))

/-- The names of the set, in increasing order. -/
def names (s : NameSet) : List String := s.keys

end NameSet

end TanDialog
