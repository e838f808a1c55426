import CoordinatorGateway.RateLimit.Limiter

namespace CoordinatorGateway

inductive RateStep where
  | observe (key : String) (now : Nat)
  | sweep (now : Nat)
  deriving DecidableEq, Repr

namespace RateStep

def time : RateStep → Nat
  | .observe _ now => now
  | .sweep now => now

def counts (key : String) : RateStep → Bool
  | .observe k _ => k == key
  | .sweep _ => false

theorem counts_observe (key k : String) (now : Nat) : (observe k now).counts key = (k == key) := rfl

end RateStep

/-- A counted request, with the record of the client right after it. -/
structure Observation where
  key : String
  now : Nat
  verdict : Except Rejection Unit
  record : Option Window

def RateStore.observations (store : RateStore) : List (Limiter × RateStep) → List Observation
  | [] => []
  | (l, .observe key now) :: steps =>
    let (verdict, after) := l.observe store key now
    ⟨key, now, verdict, after.get? key⟩ :: RateStore.observations after steps
  | (_, .sweep now) :: steps => RateStore.observations (store.sweep now) steps

theorem RateStore.observations_observe (store : RateStore) (l : Limiter) (key : String) (now : Nat)
    (steps : List (Limiter × RateStep)) :
    store.observations ((l, .observe key now) :: steps) =
      ⟨key, now, (l.observe store key now).1, (l.observe store key now).2.get? key⟩ ::
        (l.observe store key now).2.observations steps := rfl

def Window.openAt (now : Nat) (w : Option Window) : Option Window :=
  w.filter fun w => decide (now < w.resetAt)

namespace Window

theorem openAt_of_le {now : Nat} {w : Window} (h : w.resetAt ≤ now) :
    openAt now (some w) = none := by
  simp only [openAt, Option.filter, decide_eq_true_eq, if_neg (Nat.not_lt.2 h)]

theorem openAt_openAt {earlier later : Nat} (h : earlier ≤ later) (w : Option Window) :
    openAt later (openAt earlier w) = openAt later w := by
  cases w with
  | none => rfl
  | some w =>
    by_cases he : earlier < w.resetAt
    · simp [openAt, Option.filter, he]
    · have hl : ¬ later < w.resetAt := by omega
      simp [openAt, Option.filter, he, hl]

theorem openAt_congr {earlier later : Nat} {w w' : Option Window} (h : earlier ≤ later)
    (hw : openAt earlier w = openAt earlier w') : openAt later w = openAt later w' := by
  rw [← openAt_openAt h w, hw, openAt_openAt h]

end Window

namespace Limiter

/-- A closed window and none at all are the same to a limiter. -/
theorem current_openAt (l : Limiter) (now : Nat) (w : Option Window) :
    l.current now (Window.openAt now w) = l.current now w := by
  cases w with
  | none => rfl
  | some w => by_cases h : now < w.resetAt <;> simp [Window.openAt, Option.filter, current, h]

theorem counted_congr (l : Limiter) {now : Nat} {w w' : Option Window}
    (h : Window.openAt now w = Window.openAt now w') : l.counted now w = l.counted now w' := by
  have hc : l.current now w = l.current now w' := by
    rw [← l.current_openAt now w, h, l.current_openAt]
  rw [counted, counted, hc]

end Limiter

namespace RateStore

theorem get?_sweep (store : RateStore) (now : Nat) (key : String) :
    (store.sweep now).get? key = Window.openAt now (store.get? key) :=
  Registry.get?_filter store _ key

theorem get?_observe (l : Limiter) (store : RateStore) (key : String) (now : Nat) (k : String) :
    (l.observe store key now).2.get? k =
      if k = key then some (l.counted now (store.get? key)) else store.get? k :=
  Registry.get?_put store key _ k

/-- The stores hold the same open window for the client. -/
def AgreeOn (key : String) (now : Nat) (s s' : RateStore) : Prop :=
  Window.openAt now (s.get? key) = Window.openAt now (s'.get? key)

namespace AgreeOn

variable {key : String} {now : Nat} {s s' : RateStore}

theorem later (h : AgreeOn key now s s') {t : Nat} (ht : now ≤ t) : AgreeOn key t s s' :=
  Window.openAt_congr ht h

theorem sweep (h : AgreeOn key now s s') : AgreeOn key now (s.sweep now) s' := by
  rw [AgreeOn, get?_sweep, Window.openAt_openAt (Nat.le_refl now)]
  exact h

theorem observe_other (h : AgreeOn key now s s') (l : Limiter) {k : String} (hk : k ≠ key) :
    AgreeOn key now (l.observe s k now).2 s' := by
  rw [AgreeOn, get?_observe, if_neg (Ne.symm hk)]
  exact h

theorem observe_get? (h : AgreeOn key now s s') (l : Limiter) :
    (l.observe s key now).2.get? key = (l.observe s' key now).2.get? key := by
  rw [get?_observe, get?_observe, if_pos rfl, if_pos rfl, l.counted_congr h]

theorem observe_verdict (h : AgreeOn key now s s') (l : Limiter) :
    (l.observe s key now).1 = (l.observe s' key now).1 := by
  simp only [Limiter.observe, l.counted_congr h]

end AgreeOn

theorem observations_of_agree {key : String} {now : Nat} {s s' : RateStore}
    {steps : List (Limiter × RateStep)} (hs : AgreeOn key now s s')
    (hnow : ∀ x ∈ steps, now ≤ x.2.time)
    (horder : steps.Pairwise fun x y => x.2.time ≤ y.2.time) :
    (s.observations steps).filter (fun o => o.key == key) =
      s'.observations (steps.filter fun x => x.2.counts key) := by
  -- The stores need not be equal: one of them may still hold windows that are closed.
  induction steps generalizing now s s' with
  | nil => rfl
  | cons x steps ih =>
    obtain ⟨hfirst, hrest⟩ := List.pairwise_cons.1 horder
    have hs := hs.later (hnow x List.mem_cons_self)
    obtain ⟨l, step⟩ := x
    cases step with
    | sweep t => exact ih hs.sweep hfirst hrest
    | observe k t =>
      by_cases hk : k = key
      · subst hk
        have hs : AgreeOn k t s s' := hs
        have hnext : AgreeOn k t (l.observe s k t).2 (l.observe s' k t).2 :=
          congrArg (Window.openAt t) (hs.observe_get? l)
        simp only [List.filter_cons, RateStep.counts_observe, beq_self_eq_true, if_true,
          observations_observe]
        rw [ih hnext hfirst hrest, hs.observe_get? l, hs.observe_verdict l]
      · have hne : (k == key) = false := beq_eq_false_iff_ne.2 hk
        simp only [List.filter_cons, RateStep.counts_observe, hne, observations_observe]
        exact ih (hs.observe_other l hk) hfirst hrest

/-- Sweeps and other clients are invisible to a client: its requests meet with what they would
meet with if nothing but these requests had happened, and leave the same records. -/
theorem observations_of_client (store : RateStore) (steps : List (Limiter × RateStep))
    (key : String) (h : steps.Pairwise fun x y => x.2.time ≤ y.2.time) :
    (store.observations steps).filter (fun o => o.key == key) =
      store.observations (steps.filter fun x => x.2.counts key) := by
  have hs : AgreeOn key 0 store store := rfl
  exact observations_of_agree hs (fun _ _ => Nat.zero_le _) h

/-- Windows of three lengths, one of them zero, with another client and two sweeps in between. -/
theorem observations_of_client_mixed :
    let steps : List (Limiter × RateStep) :=
      [(⟨⟨10⟩, 1⟩, .observe "a" 0), (⟨⟨0⟩, 1⟩, .observe "b" 3), (⟨⟨10⟩, 1⟩, .observe "a" 4),
        (⟨⟨0⟩, 1⟩, .sweep 10), (⟨⟨5⟩, 2⟩, .observe "a" 10), (⟨⟨0⟩, 1⟩, .observe "a" 14),
        (⟨⟨5⟩, 2⟩, .sweep 15), (⟨⟨0⟩, 1⟩, .observe "a" 15)]
    (steps.Pairwise fun x y => x.2.time ≤ y.2.time) ∧
      (observations .empty steps).filter (fun o => o.key == "a") =
        observations .empty (steps.filter fun x => x.2.counts "a") := by
  intro steps
  have h : steps.Pairwise fun x y => x.2.time ≤ y.2.time := by decide
  exact ⟨h, observations_of_client .empty steps "a" h⟩

end RateStore

end CoordinatorGateway
