import CoordinatorGateway.Proofs.Agreement
import CoordinatorGateway.Proofs.Supervisor.Apart

namespace CoordinatorGateway

variable {ε ε' σ α β : Type}

def Effect.audit? : Effect → Option AuditEvent
  | .audit e => some e
  | _ => none

theorem Effect.audit?_eq_none {e : Effect} (h : e.isAudit = false) : e.audit? = none := by
  cases e with
  | audit e => cases h
  | _ => rfl

namespace World

def audits (w : World σ) : List AuditEvent := w.trace.filterMap Effect.audit?

def unaudited (w : World σ) : World σ :=
  { w with trace := w.trace.filter fun e => !e.isAudit }

theorem tracking_unaudited (w : World σ) : w.unaudited.tracking = w.tracking := rfl

theorem audits_unaudited (w : World σ) : w.unaudited.audits = [] := by
  refine List.filterMap_eq_nil_iff.2 fun e he => Effect.audit?_eq_none ?_
  simpa using (List.mem_filter.1 he).2

/-- The audited step from `w` ends in `x`, the quiet one from the same world without events in `y`:
in the same but for events, and the audited one leaves what `leaves` asks for. -/
structure Notes (leaves : α → List AuditEvent → Prop) (w : World σ) (x y : α × World σ) : Prop where
  same : y = (x.1, x.2.unaudited)
  told : ∃ xs, x.2.audits = w.audits ++ xs ∧ leaves x.1 xs

theorem Notes.mono {leaves leaves' : α → List AuditEvent → Prop} {w : World σ} {x y : α × World σ}
    (h : Notes leaves w x y) (hleaves : ∀ xs, leaves x.1 xs → leaves' x.1 xs) :
    Notes leaves' w x y := by
  obtain ⟨hsame, xs, hxs, htold⟩ := h
  exact ⟨hsame, xs, hxs, hleaves xs htold⟩

theorem Notes.congr {leaves : α → List AuditEvent → Prop} {w v : World σ} {x y : α × World σ}
    (h : Notes leaves v x y) (haudits : v.audits = w.audits) : Notes leaves w x y := by
  obtain ⟨hsame, htold⟩ := h
  rw [haudits] at htold
  exact ⟨hsame, htold⟩

theorem Notes.record (w : World σ) (e : AuditEvent) (a : α) :
    Notes (fun b xs => b = a ∧ xs = [e]) w (a, (w.run (World.record true e)).2)
      (a, (w.unaudited.run (World.record false e)).2) := by
  have hunaudited : unaudited { w with trace := w.trace ++ [.audit e] } = w.unaudited := by
    rw [unaudited, List.filter_append]
    exact congrArg (fun t => { w with trace := t }) (List.append_nil _)
  exact ⟨Prod.ext rfl hunaudited.symm, [e], List.filterMap_append, rfl, rfl⟩

theorem Apart.notes {step : World σ → α × World σ} (h : World.Apart false step) (w : World σ) :
    Notes (fun _ xs => xs = []) w (step w) (step w.unaudited) := by
  obtain ⟨effects, hlocal, hstep⟩ := h w
  have hquiet : ∀ e ∈ effects, e.isAudit = false := fun e he => (hlocal e he).not_isAudit
  have htrace : (step w).2.trace = w.trace ++ effects :=
    congrArg (fun x => x.2.trace) (hstep w.coordinator w.trace)
  have hcoordinator : (step w).2.coordinator = w.coordinator := h.coordinator w
  constructor
  · have hkept : effects.filter (fun e => !e.isAudit) = effects :=
      List.filter_eq_self.2 fun e he => by rw [hquiet e he]; rfl
    have hfirst := hstep w.coordinator (w.trace.filter fun e => !e.isAudit)
    refine hfirst.trans (Prod.ext rfl ?_)
    rw [unaudited, htrace, List.filter_append, hkept, elsewhere, hcoordinator]
  · have hnone : effects.filterMap Effect.audit? = [] :=
      List.filterMap_eq_nil_iff.2 fun e he => Effect.audit?_eq_none (hquiet e he)
    refine ⟨[], ?_, rfl⟩
    rw [audits, htrace, List.filterMap_append, hnone]
    rfl

end World

def Act.Notes (leaves : α → List AuditEvent → Prop) (act quiet : Act σ α) : Prop :=
  ∀ w : World σ, World.Notes leaves w (w.run act) (w.unaudited.run quiet)

namespace Act.Notes

variable {leaves : α → List AuditEvent → Prop} {leavesNext : β → List AuditEvent → Prop}

theorem pure {a : α} (h : leaves a []) : Act.Notes leaves (Pure.pure a : Act σ α) (Pure.pure a) :=
  fun _ => ⟨rfl, [], (List.append_nil _).symm, h⟩

theorem bind {act quiet : Act σ α} {next next' : α → Act σ β} (h : act.Notes leaves quiet)
    (hnext : ∀ a xs, leaves a xs →
      (next a).Notes (fun b ys => leavesNext b (xs ++ ys)) (next' a)) :
    Act.Notes leavesNext (act >>= next) (quiet >>= next') := by
  intro w
  obtain ⟨hsame, xs, hxs, htold⟩ := h w
  obtain ⟨hsame', ys, hys, htold'⟩ := hnext _ xs htold (w.run act).2
  rw [World.run_bind, World.run_bind, hsame]
  refine ⟨hsame', xs ++ ys, ?_, htold'⟩
  rw [hys, hxs, List.append_assoc]

end Act.Notes

namespace Attempt

variable {yes : α → List AuditEvent} {no : ε → List AuditEvent}

def told (yes : α → List AuditEvent) (no : ε → List AuditEvent) : Except ε α → List AuditEvent
  | .ok x => yes x
  | .error e => no e

theorem told_nothing (r : Except ε α) : told (fun _ => []) (fun _ => []) r = [] := by
  cases r with
  | ok x => rfl
  | error e => rfl

/-- The audited attempt beside the quiet one. It records one thing when it succeeds, and another
when it fails. -/
def Tells (yes : α → List AuditEvent) (no : ε → List AuditEvent) (a quiet : Attempt ε σ α) : Prop :=
  ∀ w : World σ,
    World.Notes (fun r xs => xs = told yes no r) w (w.attempt a) (w.unaudited.attempt quiet)

def Silent (a : Attempt ε σ α) : Prop := a.Tells (fun _ => []) (fun _ => []) a

theorem Apart.silent {a : Attempt ε σ α} (h : a.Apart false) : a.Silent :=
  fun w => (World.Apart.notes h w).mono fun _ hxs => hxs.trans (told_nothing _).symm

/-- Both make worlds that differ in no more than events out of worlds that do. -/
theorem agree_of_notes {leaves : World σ → Except ε α → List AuditEvent → Prop}
    {a quiet : Attempt ε σ α}
    (h : ∀ w, World.Notes (leaves w) w (w.attempt a) (w.unaudited.attempt quiet)) :
    a.Agree (fun w v => v = w.unaudited) quiet := by
  rintro w _ rfl
  rw [(h w).same]
  exact ⟨rfl, rfl⟩

namespace Tells

theorem agree {a quiet : Attempt ε σ α} (h : a.Tells yes no quiet) :
    a.Agree (fun w v => v = w.unaudited) quiet := agree_of_notes h

theorem pure {x : α} (h : yes x = []) :
    Attempt.Tells yes no (Pure.pure x : Attempt ε σ α) (Pure.pure x) :=
  fun _ => ⟨rfl, [], (List.append_nil _).symm, h.symm⟩

theorem throw {e : ε} (h : no e = []) :
    Attempt.Tells yes no (MonadExcept.throw e : Attempt ε σ α) (MonadExcept.throw e) :=
  fun _ => ⟨rfl, [], (List.append_nil _).symm, h.symm⟩

theorem ite {p : Prop} [Decidable p] {a quiet other quiet' : Attempt ε σ α}
    (h : a.Tells yes no quiet) (h' : other.Tells yes no quiet') :
    Attempt.Tells yes no (if p then a else other) (if p then quiet else quiet') := by
  split
  · exact h
  · exact h'

theorem after_ok {a : Attempt ε σ α} {next next' : α → Attempt ε σ β} {yes : β → List AuditEvent}
    (h : a.Silent)
    (hnext : ∀ (w : World σ) x, (w.attempt a).1 = .ok x →
      (next x).Tells yes (fun _ => []) (next' x)) :
    Attempt.Tells yes (fun _ => []) (a >>= next) (a >>= next') := by
  intro w
  have hfirst := h w
  have hend := hnext w
  rw [World.attempt_bind, World.attempt_bind]
  generalize w.attempt a = first at hfirst hend ⊢
  obtain ⟨result, w'⟩ := first
  obtain ⟨hsame, xs, hxs, rfl⟩ := hfirst
  rw [hsame]
  cases result with
  | error e => exact ⟨rfl, [], hxs, rfl⟩
  | ok x =>
    obtain ⟨hsame', ys, hys, htold⟩ := hend x rfl w'
    rw [hxs, told, List.append_nil] at hys
    exact ⟨hsame', ys, hys, htold⟩

theorem after {a : Attempt ε σ α} {next next' : α → Attempt ε σ β} {yes : β → List AuditEvent}
    (h : a.Silent) (hnext : ∀ x, (next x).Tells yes (fun _ => []) (next' x)) :
    Attempt.Tells yes (fun _ => []) (a >>= next) (a >>= next') :=
  after_ok h fun _ x _ => hnext x

theorem get {next next' : World σ → Attempt ε σ α} (h : ∀ w, (next w).Tells yes no (next' w))
    (hblind : ∀ w, next' (World.unaudited w) = next' w) :
    Attempt.Tells yes no (MonadState.get >>= next) (MonadState.get >>= next') := by
  intro w
  have hsame : w.unaudited.attempt (MonadState.get >>= next') = w.unaudited.attempt (next' w) := by
    rw [World.attempt_bind_ok (World.attempt_get _), hblind]
  rw [hsame]
  exact h w w

theorem record {e : AuditEvent} {x : α} (h : yes x = [e]) :
    Attempt.Tells yes no
      (do Attempt.surely (World.record true e); Pure.pure x : Attempt ε σ α)
      (do Attempt.surely (World.record false e); Pure.pure x) := by
  intro w
  refine (World.Notes.record w e (Except.ok x)).mono ?_
  rintro _ ⟨-, rfl⟩
  exact h.symm

theorem onError {a quiet : Attempt ε σ α} (h : a.Tells yes (fun _ => []) quiet)
    (event : ε → AuditEvent) :
    Attempt.Tells yes (fun e => [event e]) (a.onError fun e => World.record true (event e))
      (quiet.onError fun e => World.record false (event e)) := by
  intro w
  have hfirst := h w
  rw [World.attempt_onError, World.attempt_onError]
  generalize w.attempt a = first at hfirst ⊢
  obtain ⟨result, w'⟩ := first
  obtain ⟨hsame, xs, hxs, rfl⟩ := hfirst
  rw [hsame]
  cases result with
  | error e =>
    have haudits : w'.audits = w.audits := hxs.trans (List.append_nil _)
    exact ((World.Notes.record w' (event e) (Except.error e)).congr haudits).mono fun _ h => h.2
  | ok x => exact ⟨rfl, yes x, hxs, rfl⟩

end Tells

end Attempt

end CoordinatorGateway
