/-!
# Wildcard patterns

A pattern is a sequence in which one symbol, the star, stands for any sequence, the empty one
included; every other symbol stands for itself. `Produces` is that meaning as a relation, and
`accepts` decides it by a search from left to right. A star takes in nothing at first; where the
text does not go on as the pattern does, the star met last takes in one symbol more, and the search
goes on behind it. Stars before it are not looked at again (`Search.retry` holds a single place).
-/

namespace TanDialog.Wildcard

variable {α : Type} [DecidableEq α]

/-- The text can be made from the pattern by putting some sequence in the place of each star. -/
inductive Produces (star : α) : List α → List α → Prop
  | nil : Produces star [] []
  | literal {c : α} {pattern text : List α} (hc : c ≠ star) (h : Produces star pattern text) :
      Produces star (c :: pattern) (c :: text)
  | star {pattern text : List α} (filler : List α) (h : Produces star pattern text) :
      Produces star (star :: pattern) (filler ++ text)

/-- How far a search has come. -/
structure Search (α : Type) where
  /-- What is left of the pattern. -/
  pattern : List α
  /-- What is left of the text. -/
  text : List α
  /-- The pattern behind the star met last, and the text behind what this star takes in. -/
  retry : Option (List α × List α)

namespace Search

/-- The search that has not met anything yet. -/
def start (pattern text : List α) : Search α := ⟨pattern, text, none⟩

/-- One step of a search: how it goes on, or its verdict. At the end of the text all that is left
of the pattern has to be stars. -/
def step (star : α) (s : Search α) : Search α ⊕ Bool :=
  match s.text with
  | [] => .inr (s.pattern.all (· == star))
  | c :: text =>
    if s.pattern.head? = some star then
      .inl ⟨s.pattern.tail, s.text, some (s.pattern.tail, s.text)⟩
    else if s.pattern.head? = some c then .inl ⟨s.pattern.tail, text, s.retry⟩
    else
      match s.retry with
      | some (behind, rest) => .inl ⟨behind, rest.tail, some (behind, rest.tail)⟩
      | none => .inr false

/-- The verdict of a search, if it comes within a number of steps. -/
def run (star : α) : Nat → Search α → Option Bool
  | 0, _ => none
  | steps + 1, s =>
    match s.step star with
    | .inl next => run star steps next
    | .inr verdict => some verdict

end Search

/-- As many steps as a search can take: the star met last leaves off at each place of the text at
most once, and behind each place the search takes at most one step for each symbol of the
pattern. -/
def stepLimit (pattern text : List α) : Nat := (pattern.length + 1) * (text.length + 1)

/-- Whether a text matches a pattern. -/
def accepts (star : α) (pattern text : List α) : Bool :=
  (Search.start pattern text).run star (stepLimit pattern text) == some true

end TanDialog.Wildcard
