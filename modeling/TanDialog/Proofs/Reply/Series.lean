import Mathlib.Data.List.Nodup
import Mathlib.Data.List.Perm.Subperm
import Mathlib.Order.Bounds.Basic
import TanDialog.Reply.ReturnValue

/-!
# Numbered series in a property set

The members of a series have paths of their own (`Path.numbered_injective`), so that a property set
of `n` entries has a gap among the first `n + 1` of them (`Dictionary.exists_gap`). A series that is
read up to its first gap is therefore the same under every bound that the gap lies within
(`leading_eq_of_gap`): the bound on the number of members is one in form only. What is read is the
one list of the values before the first gap (`UpToGap`, `upToGap_leading`).
-/

namespace TanDialog

namespace Path

theorem toString_injective {i j : Nat} (h : toString i = toString j) : i = j := by
  have hdigits : Nat.toDigits 10 i = Nat.toDigits 10 j := by
    simpa [Nat.toString_eq_ofList_toDigits] using congrArg String.toList h
  simpa using congrArg (Nat.ofDigitChars 10 · 0) hdigits

/-- The members of a numbered group have different paths. -/
theorem numbered_injective (base : String) : Function.Injective (numbered base) := by
  have hne (i : Nat) : numbered base 0 ≠ numbered base (i + 1) := by
    intro h
    have hlength := congrArg (·.toList.length) h
    simp only [numbered, String.toList_append, List.length_append] at hlength
    have hmark : "_".toList.length = 1 := rfl
    omega
  intro i j h
  cases i with
  | zero =>
    cases j with
    | zero => rfl
    | succ j => exact absurd h (hne j)
  | succ i =>
    cases j with
    | zero => exact absurd h.symm (hne i)
    | succ j =>
      have htext : (base ++ "_").toList ++ (toString (i + 2)).toList =
          (base ++ "_").toList ++ (toString (j + 2)).toList := by
        simpa [numbered] using congrArg String.toList h
      have hindex : i + 2 = j + 2 :=
        toString_injective (String.toList_injective (List.append_cancel_left htext))
      omega

/-- So have paths that continue them in the same way. -/
theorem injective_numbered_append (base rest : String) :
    Function.Injective fun i => numbered base i ++ rest := by
  intro i j h
  refine numbered_injective base (String.toList_injective ?_)
  have htext := congrArg String.toList h
  simp only [String.toList_append] at htext
  exact List.append_cancel_right htext

theorem numbered_append (first rest : String) (i : Nat) :
    numbered (first ++ rest) i = first ++ numbered rest i := by
  cases i with
  | zero => rfl
  | succ i => simp only [numbered, String.append_assoc]

theorem point_notMem_toString (n : Nat) : '.' ∉ (toString n).toList := by
  intro h
  have hdigit := Nat.isDigit_of_mem_toDigits (by decide : 0 < 10) (Nat.le_refl 10)
    (Nat.toList_repr ▸ h : '.' ∈ Nat.toDigits 10 n)
  exact absurd hdigit (by decide)

theorem point_notMem_numbered {base : String} (h : '.' ∉ base.toList) (i : Nat) :
    '.' ∉ (numbered base i).toList := by
  cases i with
  | zero => exact h
  | succ i =>
    have hnumber := point_notMem_toString (i + 2)
    simp only [numbered, String.toList_append, List.mem_append, not_or]
    exact ⟨⟨h, by decide⟩, hnumber⟩

end Path

/-- Different keys that all have a value are not more than the entries. -/
theorem Dictionary.length_le_size {α : Type} (d : Dictionary α) {keys : List String}
    (hnodup : keys.Nodup) (hkeys : ∀ key ∈ keys, d.get? key ≠ none) : keys.length ≤ d.size := by
  have hsubset : keys ⊆ d.keys := by
    intro key hkey
    obtain ⟨v, hv⟩ := Option.ne_none_iff_exists'.mp (hkeys key hkey)
    exact List.mem_map.mpr ⟨_, Dictionary.get?_eq_some_iff.mp hv, rfl⟩
  have hlength := (List.subperm_of_subset hnodup hsubset).length_le
  rwa [Dictionary.keys, List.length_map] at hlength

/-- A dictionary can not hold all of more keys than it has entries. -/
theorem Dictionary.exists_gap {α : Type} (d : Dictionary α) {path : Nat → String}
    (hpath : Function.Injective path) : ∃ k ≤ d.size, d.get? (path k) = none := by
  by_contra hfull
  push Not at hfull
  have hnodup : ((List.range (d.size + 1)).map path).Nodup :=
    List.Nodup.map hpath List.nodup_range
  have hlength := d.length_le_size hnodup fun key hkey => by
    obtain ⟨k, hk, rfl⟩ := List.mem_map.mp hkey
    exact hfull k (Nat.le_of_lt_succ (List.mem_range.mp hk))
  rw [List.length_map, List.length_range] at hlength
  omega

section

variable {α : Type} {f : Nat → Option α}

/-- A bound behind the first gap has no effect. -/
theorem leading_eq_of_gap {start k limit : Nat} (hk : f (start + k) = none) (hlimit : k ≤ limit) :
    leading f start limit = leading f start k := by
  induction k generalizing start limit with
  | zero =>
    cases limit with
    | zero => rfl
    | succ limit =>
      have hstart : f start = none := hk
      simp only [leading, hstart]
  | succ k ih =>
    have hk' : f (start + 1 + k) = none := by rwa [Nat.add_right_comm, Nat.add_assoc]
    cases limit with
    | zero => exact absurd hlimit (Nat.not_succ_le_zero k)
    | succ limit => simp only [leading, ih hk' (Nat.le_of_succ_le_succ hlimit)]

/-- Two bounds that a gap lies within come to the same. -/
theorem leading_congr_limit {start k limit limit' : Nat} (hk : f (start + k) = none)
    (hlimit : k ≤ limit) (hlimit' : k ≤ limit') :
    leading f start limit = leading f start limit' := by
  rw [leading_eq_of_gap hk hlimit, leading_eq_of_gap hk hlimit']

/-! ### Up to the first gap -/

/-- The list of the values of a function before its first gap. -/
structure UpToGap (f : Nat → Option α) (l : List α) : Prop where
  isLeast : IsLeast {i | f i = none} l.length
  eq_getElem? : ∀ i < l.length, f i = l[i]?

theorem upToGap_iff {l : List α} : UpToGap f l ↔ ∀ i ≤ l.length, f i = l[i]? := by
  constructor
  · intro h i hi
    rcases Nat.lt_or_eq_of_le hi with hlt | rfl
    · exact h.eq_getElem? i hlt
    · rw [List.getElem?_eq_none (Nat.le_refl _)]
      exact h.isLeast.1
  · intro h
    refine ⟨⟨?_, fun i hi => ?_⟩, fun i hi => h i (Nat.le_of_lt hi)⟩
    · have hgap := h l.length (Nat.le_refl _)
      rwa [List.getElem?_eq_none (Nat.le_refl _)] at hgap
    · by_contra hlt
      have hnone : f i = none := hi
      rw [h i (by omega), List.getElem?_eq_none_iff] at hnone
      exact hlt hnone

/-- There is only one such list. -/
theorem UpToGap.unique {l m : List α} (hl : UpToGap f l) (hm : UpToGap f m) : l = m := by
  have hlength : l.length = m.length := hl.isLeast.unique hm.isLeast
  refine List.ext_getElem? fun i => ?_
  rcases Nat.lt_or_ge i l.length with hi | hi
  · rw [← hl.eq_getElem? i hi, hm.eq_getElem? i (hlength ▸ hi)]
  · rw [List.getElem?_eq_none hi, List.getElem?_eq_none (hlength ▸ hi)]

theorem getElem?_leading {start k limit : Nat} (hk : f (start + k) = none) (hlimit : k ≤ limit) :
    ∀ i ≤ (leading f start limit).length, f (start + i) = (leading f start limit)[i]? := by
  induction limit generalizing start k with
  | zero =>
    intro i hi
    obtain rfl : k = 0 := Nat.le_zero.mp hlimit
    obtain rfl : i = 0 := Nat.le_zero.mp hi
    exact hk
  | succ limit ih =>
    intro i hi
    cases hstart : f start with
    | none =>
      simp only [leading, hstart, List.length_nil, Nat.le_zero] at hi ⊢
      subst hi
      exact hstart
    | some a =>
      simp only [leading, hstart, List.length_cons] at hi ⊢
      cases i with
      | zero => exact hstart
      | succ i =>
        cases k with
        | zero => exact absurd (hstart.symm.trans hk) (Option.some_ne_none a)
        | succ k =>
          rw [List.getElem?_cons_succ, Nat.add_succ, ← Nat.succ_add]
          refine ih ?_ (Nat.le_of_succ_le_succ hlimit) i (Nat.le_of_succ_le_succ hi)
          rwa [Nat.succ_add, ← Nat.add_succ]

/-- Reading up to a bound that a gap lies within gives the values before the first gap. -/
theorem upToGap_leading {k limit : Nat} (hk : f k = none) (hlimit : k ≤ limit) :
    UpToGap f (leading f 0 limit) := by
  rw [upToGap_iff]
  rw [← Nat.zero_add k] at hk
  simpa using getElem?_leading hk hlimit

end

end TanDialog
