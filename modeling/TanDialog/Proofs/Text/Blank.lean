import Mathlib.Data.List.DropRight
import TanDialog.Text.Blank

/-!
# What trimming leaves

Trimming takes away the blanks at both ends of a text, whatever stands there, and nothing else.
-/

namespace TanDialog.Text

variable {cs : List Char}

/-- A text without blanks at its ends is not trimmed. -/
theorem trim_eq_self (hhead : ∀ c ∈ cs.head?, isBlank c = false)
    (hlast : ∀ c ∈ cs.getLast?, isBlank c = false) : trim cs = cs := by
  have hstart : cs.dropWhile isBlank = cs := by
    cases cs with
    | nil => rfl
    | cons c cs => exact List.dropWhile_cons_of_neg (by simpa using hhead c rfl)
  have hend : cs.reverse.dropWhile isBlank = cs.reverse := by
    rcases List.eq_nil_or_concat cs with rfl | ⟨front, c, rfl⟩
    · rfl
    · have hc : isBlank c = false := hlast c (by simp)
      rw [List.concat_eq_append, List.reverse_concat]
      exact List.dropWhile_cons_of_neg (by simpa using hc)
  rw [trim, hstart, trimEnd, hend, List.reverse_reverse]

/-- Trimming takes no character into a text. -/
theorem mem_of_mem_trim {c : Char} (h : c ∈ trim cs) : c ∈ cs := by
  rw [trim, trimEnd, List.mem_reverse] at h
  have hfront := (List.dropWhile_sublist isBlank).mem h
  exact (List.dropWhile_sublist isBlank).mem (List.mem_reverse.mp hfront)

/-! ### Around something else than a blank -/

theorem dropWhile_isBlank_append_cons {c : Char} (hc : isBlank c = false) (left right : List Char) :
    (left ++ c :: right).dropWhile isBlank = left.dropWhile isBlank ++ c :: right := by
  rw [List.dropWhile_append, List.dropWhile_cons_of_neg (by simp [hc])]
  split
  case isTrue hleft => rw [List.isEmpty_iff.mp hleft, List.nil_append]
  case isFalse => rfl

theorem trimEnd_append_cons {c : Char} (hc : isBlank c = false) (left right : List Char) :
    trimEnd (left ++ c :: right) = left ++ c :: trimEnd right := by
  have hreverse : (left ++ c :: right).reverse = right.reverse ++ c :: left.reverse := by simp
  rw [trimEnd, hreverse, dropWhile_isBlank_append_cons hc, trimEnd]
  simp

/-- Only the outer ends of both sides are trimmed. -/
theorem trim_append_cons {c : Char} (hc : isBlank c = false) (left right : List Char) :
    trim (left ++ c :: right) = left.dropWhile isBlank ++ c :: trimEnd right := by
  rw [trim, dropWhile_isBlank_append_cons hc, trimEnd_append_cons hc]

/-- A text of blanks only is trimmed away. -/
theorem trim_eq_nil_iff : trim cs = [] ↔ ∀ c ∈ cs, isBlank c = true := by
  constructor
  · intro htrim c hc
    by_contra hblank
    obtain ⟨left, right, rfl⟩ := List.append_of_mem hc
    rw [trim_append_cons (Bool.eq_false_iff.mpr hblank)] at htrim
    simp at htrim
  · intro h
    rw [trim, List.dropWhile_eq_nil_iff.mpr h]
    rfl

/-! ### Blanks around a text -/

theorem trim_append_of_isBlank {padding : List Char} (h : ∀ c ∈ padding, isBlank c = true)
    (cs : List Char) : trim (padding ++ cs) = trim cs := by
  rw [trim, List.dropWhile_append_of_pos h, trim]

theorem trim_append_isBlank {padding : List Char} (cs : List Char)
    (h : ∀ c ∈ padding, isBlank c = true) : trim (cs ++ padding) = trim cs := by
  by_cases hcs : ∀ c ∈ cs, isBlank c = true
  · rw [trim_eq_nil_iff.mpr hcs, trim_eq_nil_iff, List.forall_mem_append]
    exact ⟨hcs, h⟩
  · obtain ⟨c, hc, hblank⟩ : ∃ c ∈ cs, isBlank c = false := by simpa using hcs
    obtain ⟨left, right, rfl⟩ := List.append_of_mem hc
    have hend : trimEnd (right ++ padding) = trimEnd right := by
      rw [trimEnd, List.reverse_append, List.dropWhile_append_of_pos (by simpa using h), trimEnd]
    rw [List.append_assoc, List.cons_append, trim_append_cons hblank, hend, trim_append_cons hblank]

/-- Trimming at one end first makes no difference. -/
theorem trim_dropWhile_isBlank (cs : List Char) : trim (cs.dropWhile isBlank) = trim cs := by
  rw [trim, List.dropWhile_idempotent, trim]

theorem trim_trimEnd (cs : List Char) : trim (trimEnd cs) = trim cs := by
  have hback : ∀ c ∈ cs.rtakeWhile isBlank, isBlank c = true :=
    fun c hc => List.mem_rtakeWhile_imp hc
  calc trim (trimEnd cs) = trim (trimEnd cs ++ cs.rtakeWhile isBlank) :=
        (trim_append_isBlank _ hback).symm
    _ = trim cs := congrArg trim List.rdropWhile_append_rtakeWhile

end TanDialog.Text
