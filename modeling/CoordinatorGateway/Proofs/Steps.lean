import CoordinatorGateway.Gateway.World

namespace CoordinatorGateway

variable {ε ε' σ α β : Type}

instance decidableEqExcept [DecidableEq ε] [DecidableEq α] : DecidableEq (Except ε α)
  | .ok a, .ok b => decidable_of_iff (a = b) ⟨congrArg _, Except.ok.inj⟩
  | .error e, .error e' => decidable_of_iff (e = e') ⟨congrArg _, Except.error.inj⟩
  | .ok _, .error _ => isFalse nofun
  | .error _, .ok _ => isFalse nofun

@[simp] theorem Except.mapError_ok (f : ε → ε') (a : α) :
    (Except.ok a).mapError f = .ok a := rfl

@[simp] theorem Except.mapError_error (f : ε → ε') (e : ε) :
    (Except.error e : Except ε α).mapError f = .error (f e) := rfl

theorem Except.mapError_eq_ok_iff {x : Except ε α} {f : ε → ε'} {a : α} :
    x.mapError f = .ok a ↔ x = .ok a := by
  cases x with
  | error e => exact ⟨nofun, nofun⟩
  | ok b => exact ⟨fun h => congrArg _ (Except.ok.inj h), fun h => congrArg _ (Except.ok.inj h)⟩

theorem Except.bind_eq_ok_iff {x : Except ε α} {f : α → Except ε β} {b : β} :
    x >>= f = .ok b ↔ ∃ a, x = .ok a ∧ f a = .ok b := by
  cases x with
  | error e =>
    constructor
    · intro h
      cases h
    · rintro ⟨_, h, _⟩
      cases h
  | ok a =>
    constructor
    · intro h
      exact ⟨a, rfl, h⟩
    · rintro ⟨_, h, hf⟩
      cases h
      exact hf

namespace World

/-- What an act answers, and the world after it. -/
def run (w : World σ) (act : Act σ α) : α × World σ := StateT.run act w

/-- What an attempt ends in, and the world after it. -/
def attempt (w : World σ) (a : Attempt ε σ α) : Except ε α × World σ :=
  StateT.run (ExceptT.run a) w

@[simp] theorem run_pure (w : World σ) (a : α) : w.run (pure a) = (a, w) := rfl

@[simp] theorem run_bind (w : World σ) (act : Act σ α) (next : α → Act σ β) :
    w.run (act >>= next) = (w.run act).2.run (next (w.run act).1) := rfl

@[simp] theorem run_get (w : World σ) : w.run get = (w, w) := rfl

@[simp] theorem run_modifyGet (w : World σ) (f : World σ → α × World σ) :
    w.run (modifyGet f) = f w := rfl

@[simp] theorem run_attempt (w : World σ) (a : Attempt ε σ α) : w.run a.run = w.attempt a := rfl

@[simp] theorem run_ite {p : Prop} [Decidable p] (w : World σ) (act other : Act σ α) :
    w.run (if p then act else other) = if p then w.run act else w.run other :=
  apply_ite w.run p act other

theorem run_forIn (w : World σ) (xs : List β) (body : β → Act σ Unit) :
    w.run (do for x in xs do body x) = ((), xs.foldl (fun w x => (w.run (body x)).2) w) := by
  induction xs generalizing w with
  | nil => rfl
  | cons x xs ih =>
    rw [List.forIn_cons, List.foldl_cons, ← ih]
    rfl

@[simp] theorem attempt_mk (w : World σ) (act : Act σ (Except ε α)) :
    w.attempt (ExceptT.mk act) = w.run act := rfl

theorem attempt_bind (w : World σ) (a : Attempt ε σ α) (next : α → Attempt ε σ β) :
    w.attempt (a >>= next) = match w.attempt a with
      | (.ok x, w') => w'.attempt (next x)
      | (.error e, w') => (.error e, w') := by
  change w.run (a.run >>= ExceptT.bindCont next) = _
  rw [run_bind, run_attempt]
  obtain ⟨x | e, w'⟩ := w.attempt a <;> rfl

theorem attempt_bind_ok {w w' : World σ} {a : Attempt ε σ α} {x : α}
    (h : w.attempt a = (.ok x, w')) (next : α → Attempt ε σ β) :
    w.attempt (a >>= next) = w'.attempt (next x) := by
  rw [attempt_bind, h]

theorem attempt_bind_error {w w' : World σ} {a : Attempt ε σ α} {e : ε}
    (h : w.attempt a = (.error e, w')) (next : α → Attempt ε σ β) :
    w.attempt (a >>= next) = (.error e, w') := by
  rw [attempt_bind, h]

theorem attempt_bind_eq_ok_iff {w v : World σ} {a : Attempt ε σ α} {next : α → Attempt ε σ β}
    {b : β} : w.attempt (a >>= next) = (.ok b, v) ↔
      ∃ x w', w.attempt a = (.ok x, w') ∧ w'.attempt (next x) = (.ok b, v) := by
  rw [attempt_bind]
  constructor
  · intro h
    rcases hend : w.attempt a with ⟨e | x, w'⟩
    · rw [hend] at h
      cases h
    · rw [hend] at h
      exact ⟨x, w', rfl, h⟩
  · rintro ⟨x, w', hend, h⟩
    rw [hend]
    exact h

@[simp] theorem attempt_get (w : World σ) : w.attempt (get : Attempt ε σ (World σ)) = (.ok w, w) :=
  rfl

@[simp] theorem attempt_surely (w : World σ) (act : Act σ α) :
    w.attempt (Attempt.surely act : Attempt ε σ α) = (.ok (w.run act).1, (w.run act).2) := rfl

@[simp] theorem attempt_check (w : World σ) (result : Except ε α) :
    w.attempt (Attempt.check result) = (result, w) := rfl

@[simp] theorem attempt_mapError (w : World σ) (f : ε → ε') (a : Attempt ε σ α) :
    w.attempt (a.mapError f) = ((w.attempt a).1.mapError f, (w.attempt a).2) := rfl

theorem attempt_onError (w : World σ) (a : Attempt ε σ α) (step : ε → Act σ Unit) :
    w.attempt (a.onError step) = match w.attempt a with
      | (.ok x, w') => (.ok x, w')
      | (.error e, w') => (.error e, (w'.run (step e)).2) := by
  rw [Attempt.onError, attempt_mk, run_bind, run_attempt]
  obtain ⟨x | e, w'⟩ := w.attempt a <;> rfl

end World

end CoordinatorGateway
