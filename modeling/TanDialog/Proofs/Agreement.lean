import TanDialog.Proofs.Sequencing

/-!
# Two steps side by side

Two steps agree if from related states they come to related answers and related states (`Agree`);
steps that may fail are to fail for the same reason (`OrFail`). The rules put agreement together
along two sequences of steps of the same shape.
-/

namespace TanDialog

variable {ε σ σ' α α' β β' γ : Type} {S : σ → σ' → Prop} {A : α → α' → Prop} {B : β → β' → Prop}

/-- Two outcomes are the same failure, or related results. -/
inductive OrFail (A : α → α' → Prop) : Except ε α → Except ε α' → Prop
  | ok {a : α} {a' : α'} (h : A a a') : OrFail A (.ok a) (.ok a')
  | error (e : ε) : OrFail A (.error e) (.error e)

theorem OrFail.eq {o o' : Except ε α} (h : OrFail Eq o o') : o = o' := by
  cases h with
  | ok h => rw [h]
  | error e => rfl

theorem OrFail.rfl {o : Except ε α} : OrFail Eq o o := by
  cases o with
  | ok a => exact .ok (Eq.refl a)
  | error e => exact .error e

/-- What is the same of related results is the same of outcomes. -/
theorem OrFail.map_eq {o : Except ε α} {o' : Except ε α'} {g : α → γ} {g' : α' → γ}
    (h : OrFail A o o') (hg : ∀ {a a'}, A a a' → g a = g' a') : o.map g = o'.map g' := by
  cases h with
  | ok h => exact congrArg Except.ok (hg h)
  | error e => exact Eq.refl _

/-- Two pairs are related part by part. -/
structure Both (A : α → α' → Prop) (B : β → β' → Prop) (r : α × β) (r' : α' × β') : Prop where
  fst : A r.1 r'.1
  snd : B r.2 r'.2

/-- From related states, two steps come to related answers and related states. -/
def Agree (S : σ → σ' → Prop) (A : α → α' → Prop) (x : StateM σ α) (x' : StateM σ' α') : Prop :=
  ∀ s s', S s s' → A (perform x s).1 (perform x' s').1 ∧ S (perform x s).2 (perform x' s').2

namespace Agree

theorem pure {a : α} {a' : α'} (h : A a a') : Agree S A (Pure.pure a) (Pure.pure a') :=
  fun _ _ hs => ⟨h, hs⟩

theorem bind {x : StateM σ α} {x' : StateM σ' α'} {f : α → StateM σ β} {f' : α' → StateM σ' β'}
    (hx : Agree S A x x') (hf : ∀ a a', A a a' → Agree S B (f a) (f' a')) :
    Agree S B (x >>= f) (x' >>= f') := by
  intro s s' hs
  obtain ⟨ha, ht⟩ := hx s s' hs
  rw [perform_bind, perform_bind]
  exact hf _ _ ha _ _ ht

/-- If the first parts come to the same answer, the second parts may use it. -/
theorem bind_eq {x : StateM σ α} {x' : StateM σ' α} {f : α → StateM σ β} {f' : α → StateM σ' β'}
    (hx : Agree S Eq x x') (hf : ∀ a, Agree S B (f a) (f' a)) :
    Agree S B (x >>= f) (x' >>= f') := by
  refine hx.bind fun a a' ha => ?_
  subst ha
  exact hf a

/-! ### Steps that may fail -/

theorem ok {a : α} {a' : α'} (h : A a a') :
    Agree S (OrFail A) (Pure.pure a : ExceptT ε (StateM σ) α).run
      (Pure.pure a' : ExceptT ε (StateM σ') α').run :=
  fun _ _ hs => ⟨.ok h, hs⟩

theorem throw (e : ε) :
    Agree S (OrFail A) (throw e : ExceptT ε (StateM σ) α).run
      (throw e : ExceptT ε (StateM σ') α').run :=
  fun _ _ hs => ⟨.error e, hs⟩

theorem outcome (o : Except ε α) :
    Agree S (OrFail Eq) (ExceptT.mk (Pure.pure o) : ExceptT ε (StateM σ) α).run
      (ExceptT.mk (Pure.pure o) : ExceptT ε (StateM σ') α).run :=
  fun _ _ hs => ⟨.rfl, hs⟩

theorem lift {x : StateM σ α} {x' : StateM σ' α'} (hx : Agree S A x x') :
    Agree S (OrFail A) (liftM x : ExceptT ε (StateM σ) α).run
      (liftM x' : ExceptT ε (StateM σ') α').run :=
  fun s s' hs => ⟨.ok (hx s s' hs).1, (hx s s' hs).2⟩

/-- If the first parts fail, they fail for the same reason, and both sequences end. -/
theorem bind_run {x : ExceptT ε (StateM σ) α} {x' : ExceptT ε (StateM σ') α'}
    {f : α → ExceptT ε (StateM σ) β} {f' : α' → ExceptT ε (StateM σ') β'}
    (hx : Agree S (OrFail A) x.run x'.run)
    (hf : ∀ a a', A a a' → Agree S (OrFail B) (f a).run (f' a').run) :
    Agree S (OrFail B) (x >>= f).run (x' >>= f').run := by
  intro s s' hs
  have hs := hx s s' hs
  rw [perform_run, perform_run] at hs ⊢
  rw [exec_bind, exec_bind]
  generalize exec x s = r at hs
  generalize exec x' s' = r' at hs
  obtain ⟨o, t⟩ := r
  obtain ⟨o', t'⟩ := r'
  obtain ⟨ho, ht⟩ := hs
  dsimp only at ho ht
  -- the first parts end alike, so that either both second parts follow or none
  cases ho with
  | ok ha => exact hf _ _ ha _ _ ht
  | error e => exact ⟨.error e, ht⟩

/-- If the first parts come to the same result, the second parts may use it. -/
theorem bind_run_eq {x : ExceptT ε (StateM σ) α} {x' : ExceptT ε (StateM σ') α}
    {f : α → ExceptT ε (StateM σ) β} {f' : α → ExceptT ε (StateM σ') β'}
    (hx : Agree S (OrFail Eq) x.run x'.run)
    (hf : ∀ a, Agree S (OrFail B) (f a).run (f' a).run) :
    Agree S (OrFail B) (x >>= f).run (x' >>= f').run := by
  refine hx.bind_run fun a a' ha => ?_
  subst ha
  exact hf a

end Agree

end TanDialog
