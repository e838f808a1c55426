import CoordinatorGateway.Gateway.Basic
import CoordinatorGateway.Proofs.Steps
import Mathlib.Logic.Relation

namespace CoordinatorGateway

variable {ε ε' σ α β : Type}

/-- The same, except that some handles may be gone. -/
structure Tracking.Forgets (t t' : Tracking) : Prop where
  coordinator : t'.coordinator = none ∨ t'.coordinator = t.coordinator
  workers : ∀ id h, t'.workers.get? id = some h → t.workers.get? id = some h
  generation : t'.generation = t.generation
  exits : t'.exits = t.exits

namespace Tracking

variable {t t' t'' : Tracking}

theorem Forgets.refl (t : Tracking) : t.Forgets t := ⟨.inr rfl, fun _ _ h => h, rfl, rfl⟩

theorem forgets_takeCoordinator (t : Tracking) : t.Forgets t.takeCoordinator.2 :=
  ⟨.inl rfl, fun _ _ h => h, rfl, rfl⟩

theorem forgets_clearCoordinatorIf (t : Tracking) (generation : Nat) :
    t.Forgets (t.clearCoordinatorIf generation) := by
  rw [clearCoordinatorIf]
  split
  · split
    · exact ⟨.inl rfl, fun _ _ h => h, rfl, rfl⟩
    · exact .refl t
  · exact .refl t

theorem forgets_removeWorker (t : Tracking) (id : String) : t.Forgets (t.removeWorker id).2 := by
  refine ⟨.inr rfl, fun k h hk => ?_, rfl, rfl⟩
  rw [removeWorker, Registry.get?_erase] at hk
  split at hk
  · cases hk
  · exact hk

theorem forgets_removeWorkerIf (t : Tracking) (id : String) (generation : Nat) :
    t.Forgets (t.removeWorkerIf id generation) := by
  rw [removeWorkerIf]
  split
  · split
    · exact t.forgets_removeWorker id
    · exact .refl t
  · exact .refl t

theorem forgets_clearWorkers (t : Tracking) : t.Forgets t.clearWorkers.2 := by
  refine ⟨.inr rfl, fun id h hid => ?_, rfl, rfl⟩
  cases hid

theorem forgets_clear (t : Tracking) (h : Handle) : t.Forgets (t.clear h) := by
  rw [clear]
  split
  · exact t.forgets_removeWorkerIf _ _
  · exact t.forgets_clearCoordinatorIf _

end Tracking

namespace World

/-- A step that starts nothing, and that drops no coordinator but one that has ended. -/
inductive Wane : World σ → World σ → Prop where
  | note (w : World σ) {e : Effect} (hspawn : ∀ c, e ≠ .spawn c) :
      Wane w { w with trace := w.trace ++ [e] }
  | makeName (w : World σ) (n : Nat) : Wane w { w with madeUp := n }
  | signal (w : World σ) (pid : Nat) (s : Signal) :
      Wane w { w with host := (w.host.signal pid s).2, trace := w.trace ++ [.signal pid s] }
  /-- The end of a process is noticed, if it has ended. -/
  | watch {w : World σ} {h : Handle} (hstarted : h ∈ w.started) :
      Wane w { w with tracking := reapOne w.host w.tracking h }
  | clear {w : World σ} {h : Handle} (hexited : w.tracking.hasExited h = true) :
      Wane w { w with tracking := w.tracking.clear h }
  | forgetWorkers {w : World σ} {t : Tracking} (h : w.tracking.Forgets t)
      (hcoordinator : t.coordinator = w.tracking.coordinator) : Wane w { w with tracking := t }

inductive Move : World σ → World σ → Prop where
  | wane {w w' : World σ} (h : Wane w w') : Move w w'
  | spawn {w : World σ} {program : String} {args : List String} {directory : Option String}
      {c : Child} {h : Handle} (hchild : w.host.newChild program args directory = .ok c)
      (hpid : h.pid = c.pid) (hgeneration : h.generation = w.tracking.generation + 1) :
      Move w
        { w with
          host := { w.host with children := w.host.children ++ [c] }
          tracking := { w.tracking with generation := w.tracking.generation + 1 }
          started := w.started ++ [h]
          trace := w.trace ++ [.spawn c] }
  | holdCoordinator {w : World σ} {h : Handle} (hstarted : h ∈ w.started) (hid : h.id = none) :
      Move w { w with tracking := (w.tracking.installCoordinator h).2 }
  | holdWorker {w : World σ} {id : String} {h : Handle} (hstarted : h ∈ w.started)
      (hid : h.id = some id) : Move w { w with tracking := (w.tracking.installWorker id h).2 }
  | forget {w : World σ} {t : Tracking} (h : w.tracking.Forgets t) : Move w { w with tracking := t }

abbrev Wanes : World σ → World σ → Prop := Relation.ReflTransGen Wane

abbrev Reaches : World σ → World σ → Prop := Relation.ReflTransGen Move

theorem Wanes.reaches {w w' : World σ} (h : w.Wanes w') : w.Reaches w' :=
  Relation.ReflTransGen.mono (fun _ _ => Move.wane) _ _ h

theorem wanes_watch (w : World σ) {hs : List Handle} (hstarted : ∀ h ∈ hs, h ∈ w.started) :
    w.Wanes { w with tracking := hs.foldl (reapOne w.host) w.tracking } := by
  induction hs generalizing w with
  | nil => exact .refl
  | cons h hs ih =>
    have hfirst : Wane w { w with tracking := reapOne w.host w.tracking h } :=
      .watch (hstarted h List.mem_cons_self)
    have hrest := ih { w with tracking := reapOne w.host w.tracking h } fun x hx =>
      hstarted x (List.mem_cons_of_mem h hx)
    exact .head hfirst hrest

theorem Wane.places {w w' : World σ} (h : Wane w w') :
    (w'.tracking.coordinator = none ∨ w'.tracking.coordinator = w.tracking.coordinator) ∧
      ∀ id x, w'.tracking.worker? id = some x → w.tracking.worker? id = some x := by
  cases h with
  | note _ => exact ⟨.inr rfl, fun _ _ hx => hx⟩
  | makeName n => exact ⟨.inr rfl, fun _ _ hx => hx⟩
  | signal pid s => exact ⟨.inr rfl, fun _ _ hx => hx⟩
  | @watch y _ =>
    change ((reapOne w.host w.tracking y).coordinator = none ∨
      (reapOne w.host w.tracking y).coordinator = w.tracking.coordinator) ∧
      ∀ id x, (reapOne w.host w.tracking y).worker? id = some x → w.tracking.worker? id = some x
    rw [reapOne]
    split
    · exact ⟨.inr rfl, fun _ _ hx => hx⟩
    · split
      · next e _ =>
        have hforgets := (w.tracking.publishExit y.generation e).forgets_clear y
        exact ⟨hforgets.coordinator, hforgets.workers⟩
      · exact ⟨.inr rfl, fun _ _ hx => hx⟩
  | @clear y _ => exact ⟨(w.tracking.forgets_clear y).coordinator, (w.tracking.forgets_clear y).workers⟩
  | forgetWorkers hforgets hcoordinator => exact ⟨.inr hcoordinator, hforgets.workers⟩

theorem Wanes.places {w w' : World σ} (h : w.Wanes w') :
    (w'.tracking.coordinator = none ∨ w'.tracking.coordinator = w.tracking.coordinator) ∧
      ∀ id x, w'.tracking.worker? id = some x → w.tracking.worker? id = some x := by
  induction h with
  | refl => exact ⟨.inr rfl, fun _ _ hx => hx⟩
  | tail _ hwane ih =>
    obtain ⟨hcoordinator, hworkers⟩ := hwane.places
    refine ⟨?_, fun id x hx => ih.2 id x (hworkers id x hx)⟩
    rcases hcoordinator with hnone | hsame
    · exact .inl hnone
    · rw [hsame]
      exact ih.1

end World

def Act.Within (act : Act σ α) (R : World σ → World σ → Prop) : Prop :=
  ∀ w : World σ, R w (w.run act).2

def Attempt.Within (a : Attempt ε σ α) (R : World σ → World σ → Prop) : Prop :=
  ∀ w : World σ, R w (w.attempt a).2

abbrev Act.Wanes (act : Act σ α) : Prop := act.Within World.Wanes

abbrev Act.Moves (act : Act σ α) : Prop := act.Within World.Reaches

abbrev Attempt.Wanes (a : Attempt ε σ α) : Prop := a.Within World.Wanes

abbrev Attempt.Moves (a : Attempt ε σ α) : Prop := a.Within World.Reaches

namespace Act.Within

variable {R : World σ → World σ → Prop}

theorem ite {p : Prop} [Decidable p] {act other : Act σ α} (h : act.Within R)
    (h' : other.Within R) : Act.Within (if p then act else other) R := by
  split
  · exact h
  · exact h'

theorem discard {act : Act σ α} (h : act.Within R) : Act.Within (Functor.discard act) R :=
  fun w => h w

theorem get {next : World σ → Act σ α} (h : ∀ w, (next w).Within R) :
    Act.Within (MonadState.get >>= next) R := fun w => h w w

variable [IsPreorder (World σ) R]

theorem pure (a : α) : Act.Within (Pure.pure a : Act σ α) R := fun w => refl_of R w

theorem bind {act : Act σ α} {next : α → Act σ β} (h : act.Within R)
    (hnext : ∀ a, (next a).Within R) : Act.Within (act >>= next) R := by
  intro w
  exact trans_of R (h w) (hnext _ _)

theorem forIn {xs : List β} {body : β → Act σ Unit} (h : ∀ x, (body x).Within R) :
    Act.Within (do for x in xs do body x) R := by
  intro w
  rw [World.run_forIn]
  induction xs generalizing w with
  | nil => exact refl_of R w
  | cons x xs ih => exact trans_of R (h x w) (ih _)

end Act.Within

namespace Attempt.Within

variable {R : World σ → World σ → Prop}

theorem ite {p : Prop} [Decidable p] {a other : Attempt ε σ α} (h : a.Within R)
    (h' : other.Within R) : Attempt.Within (if p then a else other) R := by
  split
  · exact h
  · exact h'

theorem discard {a : Attempt ε σ α} (h : a.Within R) :
    Attempt.Within (Functor.discard a) R := by
  intro w
  have hworld : (w.attempt (Functor.discard a)).2 = (w.attempt a).2 := by
    change (w.attempt (a >>= fun _ => Pure.pure ())).2 = _
    rw [World.attempt_bind]
    rcases w.attempt a with ⟨e | x, w'⟩
    · rfl
    · rfl
  rw [hworld]
  exact h w

theorem get {next : World σ → Attempt ε σ α} (h : ∀ w, (next w).Within R) :
    Attempt.Within (MonadState.get >>= next) R := fun w => h w w

theorem surely {act : Act σ α} (h : act.Within R) :
    Attempt.Within (Attempt.surely act : Attempt ε σ α) R := fun w => h w

theorem mapError {a : Attempt ε σ α} (h : a.Within R) (f : ε → ε') :
    Attempt.Within (a.mapError f) R := fun w => h w

variable [IsPreorder (World σ) R]

theorem pure (a : α) : Attempt.Within (Pure.pure a : Attempt ε σ α) R := fun w => refl_of R w

theorem throw (e : ε) : Attempt.Within (MonadExcept.throw e : Attempt ε σ α) R :=
  fun w => refl_of R w

theorem bind_of {a : Attempt ε σ α} {next : α → Attempt ε σ β} {Q : α → Prop} (h : a.Within R)
    (hgives : ∀ (w w' : World σ) x, w.attempt a = (.ok x, w') → Q x)
    (hnext : ∀ x, Q x → (next x).Within R) : Attempt.Within (a >>= next) R := by
  intro w
  have hfirst := h w
  rw [World.attempt_bind]
  rcases hend : w.attempt a with ⟨e | x, w'⟩
  · rw [hend] at hfirst
    exact hfirst
  · rw [hend] at hfirst
    exact trans_of R hfirst (hnext x (hgives w w' x hend) w')

theorem bind {a : Attempt ε σ α} {next : α → Attempt ε σ β} (h : a.Within R)
    (hnext : ∀ x, (next x).Within R) : Attempt.Within (a >>= next) R :=
  bind_of h (fun _ _ _ _ => trivial) fun x _ => hnext x

theorem check (result : Except ε α) :
    Attempt.Within (Attempt.check result : Attempt ε σ α) R := fun w => refl_of R w

theorem onError {a : Attempt ε σ α} (h : a.Within R) {step : ε → Act σ Unit}
    (hstep : ∀ e, (step e).Within R) : Attempt.Within (a.onError step) R := by
  intro w
  have hfirst := h w
  rw [World.attempt_onError]
  rcases hend : w.attempt a with ⟨e | x, w'⟩
  · rw [hend] at hfirst
    exact trans_of R hfirst (hstep e w')
  · rw [hend] at hfirst
    exact hfirst

end Attempt.Within

namespace Act

open World

namespace Wanes

theorem record (enabled : Bool) (e : AuditEvent) :
    Act.Wanes (World.record enabled e : Act σ Unit) :=
  .ite (fun w => .single (.note w fun _ => Effect.noConfusion)) (.pure _)

theorem track {step : Tracking → α × Tracking} (h : ∀ t : Tracking, t.Forgets (step t).2)
    (hcoordinator : ∀ t : Tracking, (step t).2.coordinator = t.coordinator) :
    Act.Wanes (World.track step : Act σ α) :=
  fun w => .single (.forgetWorkers (h w.tracking) (hcoordinator w.tracking))

theorem reap : Act.Wanes (World.reap : Act σ Unit) := fun w => wanes_watch w fun _ h => h

theorem signal (pid : Nat) (s : Signal) :
    Act.Wanes (World.signal pid s : Act σ (Except String Bool)) := by
  intro w
  exact .head (.signal w pid s) (reap _)

end Wanes

end Act

end CoordinatorGateway
