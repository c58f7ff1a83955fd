import Mathlib.Data.List.Basic
import TanDialog.Property.Path

/-!
# Wildcard patterns decided

The search of `Wildcard.accepts` finds out whether a text can be made from a pattern, although it
goes back to a single star. What it still has to find out (`Search.Goal`) is the same before and
after each step (`Search.Consistent.progress`), because between that star and the place that has
been reached the pattern and the text agree literally (`Search.Consistent`): whatever an earlier
star could take in besides, the last one can take in as well (`produces_behind_star`). The search
ends because what is left gets less with each step (`Search.effort`).
-/

namespace TanDialog

namespace Wildcard

variable {α : Type} {star : α}

section

variable {l pattern text : List α}

/-! ### What a pattern produces -/

theorem produces_star_iff :
    Produces star (star :: pattern) text ↔
      ∃ filler rest, text = filler ++ rest ∧ Produces star pattern rest := by
  constructor
  · intro h
    cases h with
    | literal hc => exact absurd rfl hc
    | star filler h => exact ⟨filler, _, rfl, h⟩
  · rintro ⟨filler, rest, rfl, h⟩
    exact .star filler h

/-- A star takes in whatever stands before a text that it can begin. -/
theorem Produces.extend (filler : List α) (h : Produces star (star :: pattern) text) :
    Produces star (star :: pattern) (filler ++ text) := by
  obtain ⟨first, rest, rfl, hrest⟩ := produces_star_iff.mp h
  rw [← List.append_assoc]
  exact .star _ hrest

/-- A star takes in nothing, or the next symbol and possibly more. -/
theorem produces_star_cons_iff {c : α} :
    Produces star (star :: pattern) (c :: text) ↔
      Produces star pattern (c :: text) ∨ Produces star (star :: pattern) text := by
  constructor
  · intro h
    obtain ⟨filler, rest, htext, hrest⟩ := produces_star_iff.mp h
    cases filler with
    | nil => exact .inl (htext ▸ hrest)
    | cons d filler =>
      obtain ⟨-, rfl⟩ := List.cons.inj htext
      exact .inr (.star filler hrest)
  · rintro (h | h)
    · exact .star [] h
    · exact h.extend [c]

/-- Symbols other than the star stand for themselves. -/
theorem produces_append_iff (hl : star ∉ l) :
    Produces star (l ++ pattern) text ↔ ∃ rest, text = l ++ rest ∧ Produces star pattern rest := by
  induction l generalizing text with
  | nil => simp
  | cons c l ih =>
    rw [List.mem_cons, not_or] at hl
    constructor
    · intro h
      cases h with
      | literal hc h =>
        obtain ⟨rest, rfl, hrest⟩ := (ih hl.2).mp h
        exact ⟨rest, rfl, hrest⟩
      | star => exact absurd rfl hl.1
    · rintro ⟨rest, rfl, h⟩
      exact .literal (Ne.symm hl.1) ((ih hl.2).mpr ⟨rest, rfl, h⟩)

theorem produces_append_append_iff (hl : star ∉ l) :
    Produces star (l ++ pattern) (l ++ text) ↔ Produces star pattern text := by
  rw [produces_append_iff hl]
  constructor
  · rintro ⟨rest, htext, h⟩
    exact List.append_cancel_left htext ▸ h
  · intro h
    exact ⟨text, rfl, h⟩

/-- The empty text is made from stars only. -/
theorem produces_nil_iff : Produces star pattern [] ↔ ∀ c ∈ pattern, c = star := by
  induction pattern with
  | nil => exact iff_of_true .nil (by simp)
  | cons c pattern ih =>
    rw [List.forall_mem_cons, ← ih]
    constructor
    · intro h
      have hc : c = star := by
        by_contra hne
        have hliteral : star ∉ [c] := by simpa using Ne.symm hne
        obtain ⟨rest, hrest, -⟩ := (produces_append_iff hliteral).mp h
        exact List.cons_ne_nil c rest hrest.symm
      obtain ⟨filler, rest, htext, hrest⟩ := produces_star_iff.mp (hc ▸ h)
      obtain ⟨-, rfl⟩ := List.append_eq_nil_iff.mp htext.symm
      exact ⟨hc, hrest⟩
    · rintro ⟨rfl, h⟩
      exact .star [] h

/-- A pattern that produces a text begins as the text does or with a star. -/
theorem Produces.head?_eq {c : α} (h : Produces star pattern (c :: text)) :
    pattern.head? = some star ∨ pattern.head? = some c := by
  generalize htext : c :: text = whole at h
  cases h with
  | nil => cases htext
  | literal _ h =>
    obtain ⟨rfl, -⟩ := List.cons.inj htext
    exact .inr rfl
  | star => exact .inl rfl

/-! ### The last star is enough

The pattern behind a star begins with `l`, in which there is no star, and so does the text behind
what the star takes in. -/

/-- A second star takes over all that is still open: should the first one take in more, then the
second one can take in less. -/
theorem produces_behind_star (hl : star ∉ l) :
    Produces star (star :: (l ++ star :: pattern)) (l ++ text) ↔
      Produces star (star :: pattern) text := by
  constructor
  · intro h
    obtain ⟨filler, whole, htext, hwhole⟩ := produces_star_iff.mp h
    obtain ⟨rest, rfl, hrest⟩ := (produces_append_iff hl).mp hwhole
    have hsuffix : rest <:+ l ++ text := ⟨filler ++ l, by rw [htext, List.append_assoc]⟩
    have hlength : rest.length ≤ text.length := by
      have := congrArg List.length htext
      simp only [List.length_append] at this
      omega
    obtain ⟨more, rfl⟩ :=
      List.suffix_of_suffix_length_le hsuffix (List.suffix_append l text) hlength
    exact hrest.extend more
  · intro h
    exact .star [] ((produces_append_append_iff hl).mpr h)

/-- Where the text does not go on as the pattern does, the star has to take in one symbol more. -/
theorem produces_tail_of_mismatch {c : α} (hl : star ∉ l)
    (hmismatch : ¬ Produces star pattern (c :: text)) :
    Produces star (star :: (l ++ pattern)) (l ++ c :: text).tail ↔
      Produces star (star :: (l ++ pattern)) (l ++ c :: text) := by
  have hfirst : ¬ Produces star (l ++ pattern) (l ++ c :: text) :=
    mt (produces_append_append_iff hl).mp hmismatch
  obtain ⟨d, rest, hrest⟩ : ∃ d rest, l ++ c :: text = d :: rest :=
    List.exists_cons_of_ne_nil (by simp)
  rw [hrest] at hfirst ⊢
  rw [List.tail_cons, produces_star_cons_iff, or_iff_right hfirst]

/-- At the end of the text a star can not take in more. -/
theorem produces_end_of_text (hl : star ∉ l) :
    Produces star (star :: (l ++ pattern)) l ↔ Produces star pattern [] := by
  constructor
  · intro h
    obtain ⟨filler, whole, htext, hwhole⟩ := produces_star_iff.mp h
    obtain ⟨rest, rfl, hrest⟩ := (produces_append_iff hl).mp hwhole
    have hlength := congrArg List.length htext
    simp only [List.length_append] at hlength
    obtain rfl : rest = [] := List.eq_nil_of_length_eq_zero (by omega)
    exact hrest
  · intro h
    exact .star [] ((produces_append_iff hl).mpr ⟨[], by simp, h⟩)

end

/-! ### The search -/

namespace Search

variable {width : Nat} {s : Search α}

/-- What a search still has to find out. -/
def Goal (star : α) (s : Search α) : Prop :=
  match s.retry with
  | none => Produces star s.pattern s.text
  | some (behind, rest) => Produces star (star :: behind) rest

/-- What holds of a search whenever it has come to a place: from the star met last up to there the
pattern and the text agree, and there is no further star. Patterns are not longer than `width`. -/
inductive Consistent (star : α) (width : Nat) : Search α → Prop
  | fresh {pattern text : List α} (hwidth : pattern.length ≤ width) :
      Consistent star width ⟨pattern, text, none⟩
  | behind {l pattern text : List α} (hl : star ∉ l) (hwidth : (l ++ pattern).length ≤ width) :
      Consistent star width ⟨pattern, text, some (l ++ pattern, l ++ text)⟩

/-- When a star has just been met, nothing stands behind it yet. -/
theorem Consistent.afterStar {pattern : List α} (text : List α) (hwidth : pattern.length ≤ width) :
    Consistent star width ⟨pattern, text, some (pattern, text)⟩ :=
  @Consistent.behind α star width [] pattern text List.not_mem_nil hwidth

/-- What a search has left: the text behind the star met last, each symbol of which counts as a
whole pattern and one more, and the pattern. -/
def effort (width : Nat) (s : Search α) : Nat :=
  (width + 1) * ((s.retry.map Prod.snd).getD s.text).length + s.pattern.length

theorem effort_start (pattern text : List α) :
    (start pattern text).effort pattern.length < stepLimit pattern text := by
  simp only [effort, start, stepLimit, Option.map_none, Option.getD_none, Nat.mul_add]
  omega

variable [DecidableEq α]

/-- The steps of a search by what stands in front of it. -/
inductive Step (star : α) : Search α → Search α ⊕ Bool → Prop
  | finish (pattern : List α) (retry : Option (List α × List α)) :
      Step star ⟨pattern, [], retry⟩ (.inr (pattern.all (· == star)))
  | passStar (pattern : List α) (c : α) (text : List α) (retry : Option (List α × List α)) :
      Step star ⟨star :: pattern, c :: text, retry⟩
        (.inl ⟨pattern, c :: text, some (pattern, c :: text)⟩)
  | passLiteral {c : α} (hc : c ≠ star) (pattern text : List α)
      (retry : Option (List α × List α)) :
      Step star ⟨c :: pattern, c :: text, retry⟩ (.inl ⟨pattern, text, retry⟩)
  | goBack {c : α} {pattern text : List α} (h : ¬ Produces star pattern (c :: text))
      (behind rest : List α) :
      Step star ⟨pattern, c :: text, some (behind, rest)⟩
        (.inl ⟨behind, rest.tail, some (behind, rest.tail)⟩)
  | giveUp {c : α} {pattern text : List α} (h : ¬ Produces star pattern (c :: text)) :
      Step star ⟨pattern, c :: text, none⟩ (.inr false)

theorem step_spec (star : α) (s : Search α) : Step star s (s.step star) := by
  obtain ⟨pattern, text, retry⟩ := s
  cases text with
  | nil => exact .finish pattern retry
  | cons c text =>
    by_cases hstar : pattern.head? = some star
    · obtain ⟨pattern, rfl⟩ := List.head?_eq_some_iff.mp hstar
      simpa [step] using Step.passStar pattern c text retry
    by_cases hc : pattern.head? = some c
    · obtain ⟨pattern, rfl⟩ := List.head?_eq_some_iff.mp hc
      have hne : c ≠ star := fun h => hstar (by simp [h])
      simpa [step, hne] using Step.passLiteral hne pattern text retry
    have hmismatch : ¬ Produces star pattern (c :: text) :=
      fun h => h.head?_eq.elim hstar hc
    cases retry with
    | none => simpa [step, hstar, hc] using Step.giveUp hmismatch
    | some place => simpa [step, hstar, hc] using Step.goBack hmismatch place.1 place.2

/-- A search that ends has found out what it was for. -/
theorem Consistent.verdict (h : Consistent star width s) {verdict : Bool}
    (hstep : s.step star = .inr verdict) : verdict = true ↔ s.Goal star := by
  have hspec := s.step_spec star
  rw [hstep] at hspec
  cases hspec with
  | finish pattern retry =>
    have hall : (pattern.all (· == star)) = true ↔ Produces star pattern [] := by
      simp [produces_nil_iff]
    cases h with
    | fresh => exact hall
    | behind hl => simpa [Goal, produces_end_of_text hl] using hall
  | giveUp hmismatch =>
    cases h with
    | fresh => exact iff_of_false (by simp) hmismatch

/-- What a step keeps, and that it leaves less. -/
structure Progress (star : α) (width : Nat) (s next : Search α) : Prop where
  consistent : Consistent star width next
  goal : next.Goal star ↔ s.Goal star
  effort_lt : next.effort width < s.effort width

theorem Consistent.progress (h : Consistent star width s) {next : Search α}
    (hstep : s.step star = .inl next) : Progress star width s next := by
  have hspec := s.step_spec star
  rw [hstep] at hspec
  cases hspec with
  | passStar pattern c text retry =>
    cases h with
    | fresh hwidth =>
      rw [List.length_cons] at hwidth
      refine ⟨.afterStar _ (Nat.le_of_succ_le hwidth), Iff.rfl, ?_⟩
      simp [effort]
    | @behind l _ _ hl hwidth =>
      simp only [List.length_append, List.length_cons] at hwidth
      refine ⟨.afterStar _ (by omega), (produces_behind_star hl).symm, ?_⟩
      simp only [effort, Option.map_some, Option.getD_some, List.length_append, Nat.mul_add,
        List.length_cons]
      omega
  | @passLiteral c hc pattern text retry =>
    cases h with
    | fresh hwidth =>
      rw [List.length_cons] at hwidth
      have hliteral : star ∉ [c] := by simpa using hc.symm
      refine ⟨.fresh (Nat.le_of_succ_le hwidth), ?_, ?_⟩
      · exact (produces_append_append_iff hliteral).symm
      · simp only [effort, Option.map_none, Option.getD_none, List.length_cons, Nat.mul_add]
        omega
    | @behind l _ _ hl hwidth =>
      have hconsistent : Consistent star width
          ⟨pattern, text, some ((l ++ [c]) ++ pattern, (l ++ [c]) ++ text)⟩ :=
        .behind (by simp [hl, hc.symm]) (by simpa using hwidth)
      simp only [List.append_assoc, List.singleton_append] at hconsistent
      exact ⟨hconsistent, Iff.rfl, Nat.lt_succ_self _⟩
  | @goBack c pattern text hmismatch behind rest =>
    cases h with
    | @behind l _ _ hl hwidth =>
      refine ⟨.afterStar _ hwidth, produces_tail_of_mismatch hl hmismatch, ?_⟩
      simp only [effort, Option.map_some, Option.getD_some, List.length_tail, List.length_append,
        List.length_cons] at hwidth ⊢
      have hrest : (width + 1) * (l.length + (text.length + 1)) =
          (width + 1) * (l.length + (text.length + 1) - 1) + (width + 1) := by
        rw [← Nat.add_assoc, Nat.add_sub_cancel, Nat.mul_succ]
      omega

/-- A search with enough steps left finds out what it is for. -/
theorem Consistent.run (h : Consistent star width s) {steps : Nat}
    (hsteps : s.effort width < steps) :
    ∃ verdict, s.run star steps = some verdict ∧ (verdict = true ↔ s.Goal star) := by
  induction steps generalizing s with
  | zero => exact absurd hsteps (Nat.not_lt_zero _)
  | succ steps ih =>
    cases hstep : s.step star with
    | inr verdict =>
      refine ⟨verdict, ?_, h.verdict hstep⟩
      simp only [Search.run, hstep]
    | inl next =>
      have hprogress := h.progress hstep
      have hless := hprogress.effort_lt
      obtain ⟨verdict, hrun, hverdict⟩ := ih hprogress.consistent (by omega)
      refine ⟨verdict, ?_, hverdict.trans hprogress.goal⟩
      simp only [Search.run, hstep, hrun]

end Search

variable [DecidableEq α] {pattern text : List α}

/-- From the start a search finds out whether the pattern produces the text. -/
theorem exists_run_start (star : α) (pattern text : List α) :
    ∃ verdict, (Search.start pattern text).run star (stepLimit pattern text) = some verdict ∧
      (verdict = true ↔ Produces star pattern text) :=
  Search.Consistent.run (.fresh (Nat.le_refl _)) (Search.effort_start pattern text)

theorem accepts_iff : accepts star pattern text ↔ Produces star pattern text := by
  obtain ⟨verdict, hrun, hverdict⟩ := exists_run_start star pattern text
  rw [accepts, hrun, ← hverdict]
  simp

end Wildcard

/-! ### Components of paths -/

namespace Path

theorem matchesComponent_iff {pattern component : String} :
    matchesComponent pattern component ↔
      Wildcard.Produces '*'.toUInt8 (Text.utf8 pattern) (Text.utf8 component) :=
  Wildcard.accepts_iff

/-- Matching a component with one of a query ends within the limit of steps. The component matches
if and only if its bytes are those of the pattern with some bytes in the place of each star. -/
theorem matchesComponent_exact (pattern component : String) :
    ∃ verdict,
      (Wildcard.Search.start (Text.utf8 pattern) (Text.utf8 component)).run '*'.toUInt8
        (Wildcard.stepLimit (Text.utf8 pattern) (Text.utf8 component)) = some verdict ∧
      matchesComponent pattern component = verdict ∧
      (verdict = true ↔
        Wildcard.Produces '*'.toUInt8 (Text.utf8 pattern) (Text.utf8 component)) := by
  obtain ⟨verdict, hrun, hverdict⟩ :=
    Wildcard.exists_run_start '*'.toUInt8 (Text.utf8 pattern) (Text.utf8 component)
  refine ⟨verdict, hrun, ?_, hverdict⟩
  rw [Bool.eq_iff_iff, matchesComponent_iff, hverdict]

/-- Of two ways to take a star the search finds the one that works, also where the text itself
holds stars. -/
example : matchesComponent "a*b*c" "a*bxb*c" = true ∧ matchesComponent "a*bc" "a*cb" = false := by
  decide

end Path

end TanDialog
