/-!
# Running steps that may fail

A step that may fail works on a state and keeps it when it fails. Each way to build such steps comes
with the equation by which it runs.

* `run_bind`: one step after the other.
* `run_map`, `run_tryCatch`: the result changed, and a failure handled.
* `exists_outcome`: two runs with the same outcome.
* `SameEnd`: two results that fail alike or are related.
* `Agree`: two steps with the same outcome from related states.
* `Respects`: steps that do not see how related states differ.
-/

namespace CloudProvider
set_option autoImplicit false

variable {ε σ α β : Type}

theorem run_pure (a : α) (s : σ) : (pure a : ExceptT ε (StateM σ) α) s = (.ok a, s) := rfl

theorem run_throw (e : ε) (s : σ) : (throw e : ExceptT ε (StateM σ) α) s = (.error e, s) := rfl

theorem run_liftM (x : Except ε α) (s : σ) : (liftM x : ExceptT ε (StateM σ) α) s = (x, s) := rfl

theorem run_bind (m : ExceptT ε (StateM σ) α) (f : α → ExceptT ε (StateM σ) β) (s : σ) :
    (m >>= f) s =
      match m s with
      | (.ok a, s) => f a s
      | (.error e, s) => (.error e, s) := by
  change (ExceptT.bindCont f (m s).1) (m s).2 = _
  rcases m s with ⟨_ | _, s'⟩ <;> rfl

theorem run_map (m : ExceptT ε (StateM σ) α) (f : α → β) (s : σ) :
    (f <$> m) s = ((m s).1.map f, (m s).2) := by
  change (match (m s).1 with
    | .ok a => (pure (.ok (f a)) : StateM σ (Except ε β))
    | .error e => pure (.error e)) (m s).2 = _
  rcases m s with ⟨_ | _, s'⟩ <;> rfl

theorem run_tryCatch (m : ExceptT ε (StateM σ) α) (handle : ε → ExceptT ε (StateM σ) α) (s : σ) :
    (tryCatch m handle) s =
      match m s with
      | (.ok a, s) => (.ok a, s)
      | (.error e, s) => handle e s := by
  change (match (m s).1 with
    | .ok a => (pure (.ok a) : StateM σ (Except ε α))
    | .error e => handle e) (m s).2 = _
  rcases m s with ⟨_ | _, s'⟩ <;> rfl

theorem run_bind_ok {m : ExceptT ε (StateM σ) α} {f : α → ExceptT ε (StateM σ) β} {s s' : σ}
    {b : β} (h : (m >>= f) s = (.ok b, s')) :
    ∃ a t, m s = (.ok a, t) ∧ f a t = (.ok b, s') := by
  rw [run_bind] at h
  rcases hm : m s with ⟨e | a, t⟩ <;> rw [hm] at h
  · cases h
  · exact ⟨a, t, rfl, h⟩

/-! ## Two runs -/

theorem exists_outcome {R : σ → σ → Prop} {run run' : α × σ} (h : run.1 = run'.1 ∧ R run.2 run'.2) :
    ∃ outcome s s', run = (outcome, s) ∧ run' = (outcome, s') ∧ R s s' :=
  ⟨run.1, run.2, run'.2, rfl, Prod.ext h.1.symm rfl, h.2⟩

/-- Both fail in the same way, or both give related results. -/
inductive SameEnd {α' : Type} (P : α → α' → Prop) : Except ε α → Except ε α' → Prop where
  | failed (e : ε) : SameEnd P (.error e) (.error e)
  | done {a : α} {a' : α'} (h : P a a') : SameEnd P (.ok a) (.ok a')

namespace SameEnd

variable {α' β' : Type} {P : α → α' → Prop} {P' : β → β' → Prop} {x : Except ε α} {x' : Except ε α'}

theorem bind {f : α → Except ε β} {f' : α' → Except ε β'} (h : SameEnd P x x')
    (hf : ∀ a a', P a a' → SameEnd P' (f a) (f' a')) : SameEnd P' (x >>= f) (x' >>= f') := by
  cases h with
  | failed e => exact .failed e
  | done h => exact hf _ _ h

theorem mapError {ε' : Type} (f : ε → ε') (h : SameEnd P x x') :
    SameEnd P (x.mapError f) (x'.mapError f) := by
  cases h with
  | failed e => exact .failed (f e)
  | done h => exact .done h

theorem refl (x : Except ε α) : SameEnd Eq x x := by
  cases x with
  | error e => exact .failed e
  | ok a => exact .done rfl

end SameEnd

/-- From related states both steps give the same outcome, and related states. -/
def Agree (R : σ → σ → Prop) (m m' : ExceptT ε (StateM σ) α) : Prop :=
  ∀ s s', R s s' → (m s).1 = (m' s').1 ∧ R (m s).2 (m' s').2

/-- Related states give the same outcome and stay related. -/
abbrev Respects (R : σ → σ → Prop) (m : ExceptT ε (StateM σ) α) : Prop :=
  Agree R m m

namespace Agree

variable {R : σ → σ → Prop} {m m' : ExceptT ε (StateM σ) α}

theorem pure (a : α) :
    Agree R (Pure.pure a : ExceptT ε (StateM σ) α) (Pure.pure a : ExceptT ε (StateM σ) α) :=
  fun _ _ hs => ⟨rfl, hs⟩

theorem throw (e : ε) :
    Agree R (MonadExcept.throw e : ExceptT ε (StateM σ) α)
      (MonadExcept.throw e : ExceptT ε (StateM σ) α) :=
  fun _ _ hs => ⟨rfl, hs⟩

theorem bind {f f' : α → ExceptT ε (StateM σ) β} (hm : Agree R m m') (hf : ∀ a, Agree R (f a) (f' a)) :
    Agree R (m >>= f) (m' >>= f') := by
  intro s s' hs
  obtain ⟨result, t, t', hrun, hrun', hnext⟩ := exists_outcome (hm s s' hs)
  rw [run_bind, run_bind, hrun, hrun']
  cases result with
  | error e => exact ⟨rfl, hnext⟩
  | ok a => exact hf a t t' hnext

theorem map (f : α → β) (hm : Agree R m m') : Agree R (f <$> m) (f <$> m') := by
  intro s s' hs
  obtain ⟨hresult, hnext⟩ := hm s s' hs
  rw [run_map, run_map, hresult]
  exact ⟨rfl, hnext⟩

theorem tryCatch {handle handle' : ε → ExceptT ε (StateM σ) α} (hm : Agree R m m')
    (hhandle : ∀ e, Agree R (handle e) (handle' e)) :
    Agree R (tryCatch m handle) (tryCatch m' handle') := by
  intro s s' hs
  obtain ⟨result, t, t', hrun, hrun', hnext⟩ := exists_outcome (hm s s' hs)
  rw [run_tryCatch, run_tryCatch, hrun, hrun']
  cases result with
  | error e => exact hhandle e t t' hnext
  | ok a => exact ⟨rfl, hnext⟩

theorem forM {f f' : β → ExceptT ε (StateM σ) PUnit} (hf : ∀ b, Agree R (f b) (f' b)) (bs : List β) :
    Agree R (bs.forM f) (bs.forM f') := by
  induction bs with
  | nil => exact pure _
  | cons b rest ih => exact (hf b).bind fun _ => ih

end Agree

end CloudProvider
