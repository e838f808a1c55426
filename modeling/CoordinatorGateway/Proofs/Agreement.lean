import CoordinatorGateway.Proofs.Steps

namespace CoordinatorGateway

variable {ε ε' σ α β : Type} {Q : World σ → World σ → Prop}

/-- One result, and related worlds. -/
structure World.Agree (Q : World σ → World σ → Prop) (x y : α × World σ) : Prop where
  result : y.1 = x.1
  worlds : Q x.2 y.2

/-- Taken in related worlds, the acts come to the same and leave related worlds. -/
def Act.Agree (Q : World σ → World σ → Prop) (act other : Act σ α) : Prop :=
  ∀ w v, Q w v → World.Agree Q (w.run act) (v.run other)

def Attempt.Agree (Q : World σ → World σ → Prop) (a other : Attempt ε σ α) : Prop :=
  ∀ w v, Q w v → World.Agree Q (w.attempt a) (v.attempt other)

namespace Act.Agree

theorem pure (a : α) : Act.Agree Q (Pure.pure a : Act σ α) (Pure.pure a) := fun _ _ h => ⟨rfl, h⟩

theorem bind {act other : Act σ α} {next next' : α → Act σ β} (h : act.Agree Q other)
    (hnext : ∀ a, (next a).Agree Q (next' a)) : Act.Agree Q (act >>= next) (other >>= next') := by
  intro w v hw
  obtain ⟨hresult, hworlds⟩ := h w v hw
  rw [World.run_bind, World.run_bind, hresult]
  exact hnext _ _ _ hworlds

end Act.Agree

namespace Attempt.Agree

theorem pure (a : α) : Attempt.Agree Q (Pure.pure a : Attempt ε σ α) (Pure.pure a) :=
  fun _ _ h => ⟨rfl, h⟩

theorem throw (e : ε) :
    Attempt.Agree Q (MonadExcept.throw e : Attempt ε σ α) (MonadExcept.throw e) :=
  fun _ _ h => ⟨rfl, h⟩

theorem check (result : Except ε α) :
    Attempt.Agree Q (Attempt.check result : Attempt ε σ α) (Attempt.check result) :=
  fun _ _ h => ⟨rfl, h⟩

theorem surely {act other : Act σ α} (h : act.Agree Q other) :
    Attempt.Agree Q (Attempt.surely act : Attempt ε σ α) (Attempt.surely other) := by
  intro w v hw
  obtain ⟨hresult, hworlds⟩ := h w v hw
  exact ⟨congrArg Except.ok hresult, hworlds⟩

theorem mapError {a other : Attempt ε σ α} (h : a.Agree Q other) (f : ε → ε') :
    (a.mapError f).Agree Q (other.mapError f) := by
  intro w v hw
  obtain ⟨hresult, hworlds⟩ := h w v hw
  exact ⟨congrArg (Except.mapError f) hresult, hworlds⟩

theorem bind {a other : Attempt ε σ α} {next next' : α → Attempt ε σ β} (h : a.Agree Q other)
    (hnext : ∀ x, (next x).Agree Q (next' x)) :
    Attempt.Agree Q (a >>= next) (other >>= next') := by
  intro w v hw
  have hfirst := h w v hw
  rw [World.attempt_bind, World.attempt_bind]
  generalize w.attempt a = x at hfirst ⊢
  generalize v.attempt other = y at hfirst ⊢
  obtain ⟨_, w'⟩ := x
  obtain ⟨result, v'⟩ := y
  obtain ⟨rfl, hworlds⟩ := hfirst
  cases result with
  | error e => exact ⟨rfl, hworlds⟩
  | ok x => exact hnext x w' v' hworlds

theorem onError {a other : Attempt ε σ α} (h : a.Agree Q other) {step step' : ε → Act σ Unit}
    (hstep : ∀ e, (step e).Agree Q (step' e)) : (a.onError step).Agree Q (other.onError step') := by
  intro w v hw
  have hfirst := h w v hw
  rw [World.attempt_onError, World.attempt_onError]
  generalize w.attempt a = x at hfirst ⊢
  generalize v.attempt other = y at hfirst ⊢
  obtain ⟨_, w'⟩ := x
  obtain ⟨result, v'⟩ := y
  obtain ⟨rfl, hworlds⟩ := hfirst
  cases result with
  | error e => exact ⟨rfl, (hstep e w' v' hworlds).worlds⟩
  | ok x => exact ⟨rfl, hworlds⟩

end Attempt.Agree

end CoordinatorGateway
