import CoordinatorGateway.Proofs.Supervisor.Bystanders
import CoordinatorGateway.Proofs.Supervisor.Targets

namespace CoordinatorGateway

variable {σ : Type}

def Effect.sent? : Effect → Option (Nat × Signal)
  | .signal pid s => some (pid, s)
  | _ => none

def StopOutcome.forced : StopOutcome → Bool
  | .notRunning => false
  | .stopped _ _ forced => forced

namespace Host

variable {h : Host} {name : String} {pid : Nat}

/-- The machine once these processes have been asked to end and have had the time for it. -/
def asked (h : Host) (pids : List Nat) : Host :=
  pids.foldl (fun h pid => (h.signal pid .graceful).2) h

theorem isAlive_of_mem_listing (hpid : pid ∈ h.listing name) : h.isAlive pid = true := by
  rw [isAlive_iff]
  rcases List.mem_append.1 hpid with hother | hchild
  · cases hnamed : h.outsiders.named.lookup name with
    | none =>
      rw [hnamed] at hother
      cases hother
    | some pids =>
      rw [hnamed] at hother
      obtain ⟨before, after, hentries, -⟩ := List.lookup_eq_some_iff.1 hnamed
      refine .inr (Outsiders.has_iff.2 ⟨(name, pids), ?_, hother⟩)
      rw [hentries]
      exact List.mem_append_right before List.mem_cons_self
  · obtain ⟨c, hc, rfl⟩ := List.mem_map.1 hchild
    obtain ⟨hmem, hrunning⟩ := List.mem_filter.1 hc
    exact .inl ⟨c, hmem, rfl, (Bool.and_eq_true_iff.1 hrunning).1⟩

theorem listing_endChild (h : Host) (pid : Nat) (name : String) :
    ((h.endChild pid).listing name).Sublist (h.listing name) := by
  apply List.Sublist.append (List.Sublist.refl _)
  have hpid : (Child.pid ∘ fun c => if c.pid == pid then c.dies else c) = Child.pid := by
    funext c
    rw [Function.comp_apply, apply_ite Child.pid, Child.dies_pid, ite_self]
  rw [endChild, List.filter_map, List.map_map, hpid]
  apply List.Sublist.map
  apply List.monotone_filter_right
  intro c hlisted
  rw [Function.comp_apply] at hlisted
  split at hlisted
  · rw [Child.dies_isRunning, Bool.false_and] at hlisted
    cases hlisted
  · exact hlisted

theorem listing_signal (h : Host) (pid : Nat) (s : Signal) (name : String) :
    ((h.signal pid s).2.listing name).Sublist (h.listing name) := by
  rcases h.signal_cases pid s with hsignal | hsignal | hsignal
  · rw [hsignal]
  · rw [hsignal]
    exact h.listing_endChild pid name
  · rw [hsignal]
    apply List.Sublist.append _ (List.Sublist.refl _)
    rw [Outsiders.remove_eq_without, Outsiders.lookup_without]
    cases h.outsiders.named.lookup name with
    | none => exact List.Sublist.refl _
    | some pids => exact List.filter_sublist

theorem listing_asked (h : Host) (pids : List Nat) (name : String) :
    ((h.asked pids).listing name).Sublist (h.listing name) := by
  induction pids generalizing h with
  | nil => exact List.Sublist.refl _
  | cons pid pids ih => exact (ih _).trans (h.listing_signal pid .graceful name)

end Host

namespace World

def signals (w : World σ) : List (Nat × Signal) := w.trace.filterMap Effect.sent?

theorem signals_signal (w : World σ) (pid : Nat) (s : Signal) :
    (w.run (signal pid s)).2.signals = w.signals ++ [(pid, s)] := by
  change List.filterMap Effect.sent? (w.trace ++ [Effect.signal pid s]) = _
  rw [List.filterMap_append]
  rfl

/-- The place holds a handle whose process is not known to have ended. -/
def HoldsLive (w : World σ) (place : Option String) : Prop :=
  ∃ x, w.tracking.at? place = some x ∧ w.tracking.hasExited x = false

end World

namespace Supervisor

open Attempt (surely)

variable (s : Supervisor)

theorem signals_record (w : World σ) (e : AuditEvent) :
    (w.run (s.record e)).2.signals = w.signals := by
  rw [record, World.record]
  split
  · change List.filterMap Effect.sent? (w.trace ++ [Effect.audit e]) = _
    rw [List.filterMap_append]
    exact List.append_nil _
  · rfl

theorem signals_recordStopped (w : World σ) (role : Role) (workerId : Option String)
    (pids : List Nat) (managed forced : Bool) :
    (w.run (s.recordStopped role workerId pids managed forced)).2.signals = w.signals :=
  s.signals_record w _

/-- The attempt sends the signal to these processes, one after the other. Once a signal cannot be
sent, it fails. -/
def Sends {α : Type} (signal : Signal) (pids : List Nat) (a : Attempt SupervisorFault σ α) : Prop :=
  ∀ w : World σ, ∃ sent, sent <+: pids ∧
    (w.attempt a).2.signals = w.signals ++ sent.map (·, signal) ∧
    (w.attempt a).2.host = sent.foldl (fun h pid => (h.signal pid signal).2) w.host ∧
    ∀ x, (w.attempt a).1 = .ok x → sent = pids

namespace Sends

variable {α β : Type} {signal : Signal} {pid : Nat} {pids : List Nat}

theorem pure (x : α) : Sends signal [] (Pure.pure x : Attempt SupervisorFault σ α) :=
  fun _ => ⟨[], List.prefix_refl _, (List.append_nil _).symm, rfl, fun _ _ => rfl⟩

theorem cons {next : Bool → Attempt SupervisorFault σ α}
    (hnext : ∀ delivered, Sends signal pids (next delivered)) :
    Sends signal (pid :: pids) (send pid signal >>= next) := by
  intro w
  have hfirst := w.signals_signal pid signal
  rw [World.attempt_bind, attempt_send]
  cases (w.host.signal pid signal).1 with
  | error e => exact ⟨[pid], ⟨pids, rfl⟩, hfirst, rfl, fun _ h => by cases h⟩
  | ok delivered =>
    obtain ⟨sent, hsent, hsignals, hhost, hall⟩ :=
      hnext delivered (w.run (World.signal pid signal)).2
    rw [hfirst, List.append_assoc] at hsignals
    exact ⟨pid :: sent, List.cons_prefix_cons.2 ⟨rfl, hsent⟩, hsignals, hhost,
      fun x hx => congrArg (pid :: ·) (hall x hx)⟩

theorem map {a : Attempt SupervisorFault σ α} (h : Sends signal pids a) (f : α → β) :
    Sends signal pids (a >>= fun x => Pure.pure (f x)) := by
  intro w
  obtain ⟨sent, hsent, hsignals, hhost, hall⟩ := h w
  refine ⟨sent, hsent, ?_⟩
  rw [World.attempt_bind]
  rcases hend : w.attempt a with ⟨e | x, v⟩
  · rw [hend] at hsignals hhost
    exact ⟨hsignals, hhost, fun _ h => by cases h⟩
  · rw [hend] at hsignals hhost hall
    exact ⟨hsignals, hhost, fun _ _ => hall x rfl⟩

end Sends

theorem signalAll_sends (pids : List Nat) :
    Sends .graceful pids (signalAll pids : Attempt SupervisorFault σ (List Nat)) := by
  induction pids with
  | nil => exact .pure []
  | cons pid pids ih =>
    apply Sends.cons
    intro delivered
    exact ih.map fun rest => if delivered then pid :: rest else rest

theorem killAll_sends (pids : List Nat) :
    Sends .forceful pids (killAll pids : Attempt SupervisorFault σ Unit) := by
  induction pids with
  | nil => exact .pure ()
  | cons pid pids ih =>
    have hkill : (killAll (pid :: pids) : Attempt SupervisorFault σ Unit) =
        send pid .forceful >>= fun _ => killAll pids := by
      rw [killAll]
      exact bind_map_left _ (send pid .forceful) fun _ => killAll pids
    rw [hkill]
    exact Sends.cons fun _ => ih

/-- What a stop sends and reports. The graceful signals come first; only a process that got one and
is there still gets a forceful one. Forced is reported just when that went to a process that is not
managed. -/
structure Escalates (w : World σ) (done : Except SupervisorFault StopOutcome × World σ)
    (managed : Prop) (sent killed : List Nat) : Prop where
  signals : done.2.signals = w.signals ++ sent.map (·, .graceful) ++ killed.map (·, .forceful)
  outlasts : ∀ pid ∈ killed, pid ∈ sent ∧ (w.host.asked sent).isAlive pid = true
  once : (∀ role, (w.host.listing (s.name role)).Nodup) → sent.Nodup ∧ killed.Nodup
  forced : ∀ outcome, done.1 = .ok outcome →
    (outcome.forced = true ↔ ¬ managed ∧ killed ≠ [])

namespace Escalates

variable {s} {w v : World σ} {managed : Prop} {sent killed : List Nat}

theorem of_asked {result : Except SupervisorFault StopOutcome}
    (hsignals : v.signals = w.signals ++ sent.map (·, .graceful))
    (honce : (∀ role, (w.host.listing (s.name role)).Nodup) → sent.Nodup)
    (hunforced : ∀ outcome, result = .ok outcome → outcome.forced = false) :
    s.Escalates w (result, v) managed sent [] where
  signals := hsignals.trans (List.append_nil _).symm
  outlasts := List.forall_mem_nil _
  once hlisted := ⟨honce hlisted, List.nodup_nil⟩
  forced outcome houtcome := by
    rw [hunforced outcome houtcome]
    exact ⟨fun h => absurd h Bool.false_ne_true, fun h => absurd rfl h.2⟩

theorem of_error {e : SupervisorFault} (hsignals : v.signals = w.signals ++ sent.map (·, .graceful))
    (honce : (∀ role, (w.host.listing (s.name role)).Nodup) → sent.Nodup) :
    s.Escalates w (.error e, v) managed sent [] :=
  .of_asked hsignals honce fun _ h => by cases h

end Escalates

/-- The grace period is over: those that were asked and are listed still are killed. -/
theorem killRemaining_escalates {w w₁ : World σ} {role : Role} (workerId : Option String)
    {sent signalled : List Nat} {managed : Prop} (hother : ¬ managed)
    (hsignals : w₁.signals = w.signals ++ sent.map (·, .graceful))
    (hhost : w₁.host = w.host.asked sent) (hsignalled : signalled ⊆ sent)
    (honce : (∀ role, (w.host.listing (s.name role)).Nodup) → sent.Nodup) :
    let remaining := (w₁.host.listing (s.name role)).filter signalled.contains
    ∃ killed, s.Escalates w (w₁.attempt (do
      killAll remaining
      surely (s.recordStopped role workerId signalled false (!remaining.isEmpty))
      return .stopped signalled false (!remaining.isEmpty))) managed sent killed := by
  intro remaining
  have hremaining : ∀ pid ∈ remaining, pid ∈ sent ∧ (w.host.asked sent).isAlive pid = true := by
    intro pid hpid
    obtain ⟨hlisted, hasked⟩ := List.mem_filter.1 hpid
    rw [hhost] at hlisted
    exact ⟨hsignalled (List.contains_iff_mem.1 hasked), Host.isAlive_of_mem_listing hlisted⟩
  have hlistedOnce : remaining.Sublist (w.host.listing (s.name role)) := by
    apply List.filter_sublist.trans
    rw [hhost]
    exact w.host.listing_asked sent (s.name role)
  obtain ⟨killed, hkilled, hkills, -, hall⟩ := killAll_sends remaining w₁
  rw [hsignals] at hkills
  have houtlasts (pid : Nat) (hpid : pid ∈ killed) := hremaining pid (hkilled.subset hpid)
  have hnodup (hlists : ∀ role, (w.host.listing (s.name role)).Nodup) : sent.Nodup ∧ killed.Nodup :=
    ⟨honce hlists, (hlists role).sublist (hkilled.sublist.trans hlistedOnce)⟩
  refine ⟨killed, ?_⟩
  rw [World.attempt_bind]
  rcases hend : w₁.attempt (killAll remaining) with ⟨e | u, w₂⟩
  · rw [hend] at hkills
    exact ⟨hkills, houtlasts, hnodup, fun _ h => by cases h⟩
  · rw [hend] at hkills hall
    obtain rfl := hall u rfl
    refine ⟨(s.signals_recordStopped w₂ _ _ _ _ _).trans hkills, houtlasts, hnodup,
      fun outcome houtcome => ?_⟩
    obtain rfl := Except.ok.inj houtcome
    simp [StopOutcome.forced, hother]

theorem stopOthers_escalates (w : World σ) (role : Role) (workerId : Option String)
    {pids : List Nat} (hlisted : pids.Sublist (w.host.listing (s.name role))) {managed : Prop}
    (hother : ¬ managed) :
    ∃ sent killed, sent <+: pids ∧
      s.Escalates w (w.attempt (s.stopOthers role workerId pids)) managed sent killed := by
  obtain ⟨sent, hsent, hsignals, hhost, hall⟩ := signalAll_sends pids w
  have honce (hlists : ∀ role, (w.host.listing (s.name role)).Nodup) : sent.Nodup :=
    (hlists role).sublist (hsent.sublist.trans hlisted)
  rw [stopOthers, World.attempt_bind]
  rcases hend : w.attempt (signalAll pids) with ⟨e | signalled, w₁⟩
  · rw [hend] at hsignals
    exact ⟨sent, [], hsent, .of_error hsignals honce⟩
  · rw [hend] at hsignals hhost hall
    obtain rfl := hall signalled rfl
    dsimp only
    by_cases hempty : signalled.isEmpty = true
    · rw [if_pos hempty]
      refine ⟨sent, [], hsent, .of_asked hsignals honce fun outcome houtcome => ?_⟩
      obtain rfl := Except.ok.inj houtcome
      rfl
    · rw [if_neg hempty, World.attempt_bind, attempt_listed, Host.find_eq]
      cases w₁.host.outsiders.failFind with
      | some e => exact ⟨sent, [], hsent, .of_error hsignals honce⟩
      | none =>
        obtain ⟨killed, hescalates⟩ := s.killRemaining_escalates workerId hother hsignals hhost
          (signalAll_sublist hend).subset honce
        exact ⟨sent, killed, hsent, hescalates⟩

theorem endAfterGrace_kills {w : World σ} (hw : w.Sound) {x : Handle} (hx : x ∈ w.started) :
    let asked := (w.run (World.signal x.pid .graceful)).2
    ∃ killed : List Nat, (asked.run (endAfterGrace x)).2.signals =
        asked.signals ++ killed.map (·, .forceful) ∧
      killed.Nodup ∧ ∀ pid ∈ killed, pid ∈ [x.pid] ∧ asked.host.isAlive pid = true := by
  intro asked
  rw [endAfterGrace, World.run_bind, World.run_get, World.run_ite]
  cases hexited : asked.tracking.hasExited x with
  | true => exact ⟨[], (List.append_nil _).symm, List.nodup_nil, List.forall_mem_nil _⟩
  | false =>
    have hruns : asked.Runs x := World.runs_of_not_exited hw hx hexited
    refine ⟨[x.pid], asked.signals_signal x.pid .forceful, List.nodup_singleton x.pid,
      fun pid hpid => ⟨hpid, ?_⟩⟩
    rw [List.mem_singleton.1 hpid]
    exact Host.isAlive_iff.2 (.inl hruns)

theorem stopManaged_escalates {w : World σ} (hw : w.Sound) {x : Handle} (hx : x ∈ w.started)
    {managed : Prop} (hmanaged : managed) :
    ∃ killed, s.Escalates w (w.attempt (s.stopManaged x)) managed [x.pid] killed := by
  have hasked := w.signals_signal x.pid .graceful
  have honce : [x.pid].Nodup := List.nodup_singleton x.pid
  rw [stopManaged, World.attempt_bind, attempt_send]
  rcases (w.host.signal x.pid .graceful).1 with e | _ | _
  · exact ⟨[], .of_error hasked fun _ => honce⟩
  · refine ⟨[], .of_asked hasked (fun _ => honce) fun outcome houtcome => ?_⟩
    obtain rfl := Except.ok.inj houtcome
    rfl
  · obtain ⟨killed, hkills, hkilledOnce, houtlasts⟩ := endAfterGrace_kills hw hx
    rw [hasked] at hkills
    refine ⟨killed, (s.signals_recordStopped _ _ _ _ _ _).trans hkills, houtlasts,
      fun _ => ⟨honce, hkilledOnce⟩, fun outcome houtcome => ?_⟩
    obtain rfl := Except.ok.inj houtcome
    exact ⟨fun h => absurd h Bool.false_ne_true, fun h => absurd hmanaged h.1⟩

namespace Escalates

variable {s} {w v : World σ} {managed : Prop} {sent killed : List Nat}

theorem of_nobody {result : Except SupervisorFault StopOutcome} (hsignals : v.signals = w.signals)
    (hunforced : ∀ outcome, result = .ok outcome → outcome.forced = false) :
    s.Escalates w (result, v) managed [] [] :=
  .of_asked (hsignals.trans (List.append_nil _).symm) (fun _ => List.nodup_nil) hunforced

theorem thenDropWorkers {a : Attempt SupervisorFault σ StopOutcome}
    (h : s.Escalates w (v.attempt a) managed sent killed) :
    s.Escalates w (v.attempt (Supervisor.thenDropWorkers a)) managed sent killed := by
  rw [attempt_thenDropWorkers]
  rcases hend : v.attempt a with ⟨e | outcome, v'⟩
  · rw [hend] at h
    exact h
  · rw [hend] at h
    exact ⟨h.signals, h.outlasts, h.once, h.forced⟩

theorem congr {w' : World σ} {done : Except SupervisorFault StopOutcome × World σ}
    (h : s.Escalates w done managed sent killed) (hsignals : w'.signals = w.signals)
    (hhost : w'.host = w.host) : s.Escalates w' done managed sent killed := by
  refine ⟨?_, ?_, ?_, h.forced⟩
  · rw [hsignals]
    exact h.signals
  · rw [hhost]
    exact h.outlasts
  · rw [hhost]
    exact h.once

end Escalates

theorem holdsLive_iff {w : World σ} {place : Option String} : w.HoldsLive place ↔
    ((w.tracking.at? place).filter fun x => !w.tracking.hasExited x).isSome = true := by
  simp only [World.HoldsLive, Option.isSome_iff_exists, Option.filter_eq_some_iff,
    Bool.not_eq_true']

theorem stopFound_escalates {w : World σ} {look : Attempt SupervisorFault σ (List Nat)}
    (stop : List Nat → Attempt SupervisorFault σ StopOutcome) {found : List Nat} {managed : Prop}
    (hsame : (w.attempt look).2 = w) (hfound : ∀ pids, (w.attempt look).1 = .ok pids → pids = found)
    (hstop : ∃ sent killed, sent <+: found ∧
      s.Escalates w (w.attempt (stop found)) managed sent killed) :
    ∃ sent killed, sent <+: found ∧ s.Escalates w (w.attempt (do
      let pids ← look
      if pids.isEmpty then return .notRunning
      stop pids)) managed sent killed := by
  rw [World.attempt_bind]
  rcases hlook : w.attempt look with ⟨e | pids, v⟩
  · rw [hlook] at hsame
    obtain rfl := hsame
    exact ⟨[], [], List.nil_prefix, .of_nobody rfl fun _ h => by cases h⟩
  · rw [hlook] at hsame hfound
    obtain rfl := hsame
    obtain rfl := hfound pids rfl
    by_cases hempty : pids.isEmpty = true
    · refine ⟨[], [], List.nil_prefix, ?_⟩
      dsimp only
      rw [if_pos hempty]
      refine .of_nobody rfl fun outcome houtcome => ?_
      obtain rfl := Except.ok.inj houtcome
      rfl
    · dsimp only
      rw [if_neg hempty]
      exact hstop

theorem stopCoordinator_escalates {w : World σ} (hw : w.Sound) :
    ∃ sent killed, sent <+: s.coordinatorTargets w ∧
      s.Escalates w (w.attempt s.stopCoordinator) (w.HoldsLive none) sent killed := by
  have hsound : w.withoutCoordinator.Sound := hw.forgets w.tracking.forgets_takeCoordinator
  rw [attempt_stopCoordinator, coordinatorTargets, holdsLive_iff]
  change ∃ sent killed, _ ∧ s.Escalates w _
    ((w.tracking.coordinator.filter fun x => !w.tracking.hasExited x).isSome = true) _ _
  cases hmanaged : w.tracking.coordinator.filter fun x => !w.tracking.hasExited x with
  | some x =>
    have hx := (hw.coordinator x (Option.filter_eq_some_iff.1 hmanaged).1).1
    obtain ⟨killed, hescalates⟩ := s.stopManaged_escalates hsound hx rfl
    exact ⟨[x.pid], killed, List.prefix_refl _, hescalates.thenDropWorkers.congr rfl rfl⟩
  | none =>
    have hlook := s.otherCoordinators_within (R := Eq) none w.withoutCoordinator
    have hfound (pids : List Nat)
        (hpids : (w.withoutCoordinator.attempt (s.otherCoordinators none)).1 = .ok pids) :
        pids = w.host.listing (s.name .coordinator) := by
      rw [attempt_allCoordinators] at hpids
      have hlisted : w.withoutCoordinator.attempt (s.listed .coordinator) =
          (.ok pids, w.withoutCoordinator) := Prod.ext hpids rfl
      exact (s.listed_ok hlisted).2.1
    obtain ⟨sent, killed, hsent, hescalates⟩ := s.stopOthers_escalates w.withoutCoordinator
      .coordinator none (List.Sublist.refl _) Bool.false_ne_true
    obtain ⟨sent, killed, hsent, hescalates⟩ := s.stopFound_escalates
      (fun pids => thenDropWorkers (s.stopOthers .coordinator none pids)) hlook.symm hfound
      ⟨sent, killed, hsent, hescalates.thenDropWorkers⟩
    exact ⟨sent, killed, hsent, hescalates.congr rfl rfl⟩

theorem othersOf_sublist (w : World σ) (id : String) :
    (s.othersOf w id).Sublist (w.host.listing (s.name .worker)) :=
  List.filter_sublist.trans List.filter_sublist

theorem stopWorker_escalates {w : World σ} (hw : w.Sound) (id : String) :
    ∃ sent killed, sent <+: s.workerTargets w id ∧
      s.Escalates w (w.attempt (s.stopWorker id)) (w.HoldsLive (some id)) sent killed := by
  cases hid : checked (Identifier.check "worker id" id) with
  | error e =>
    have hrefused : w.attempt (s.stopWorker id) = (.error e, w) := by
      rw [stopWorker, World.attempt_bind, World.attempt_check, hid]
    rw [hrefused]
    exact ⟨[], [], List.nil_prefix, .of_nobody rfl fun _ h => by cases h⟩
  | ok u =>
    have hsound : (w.withoutWorker id).Sound := hw.forgets (w.tracking.forgets_removeWorker id)
    rw [s.attempt_stopWorker hid, workerTargets, holdsLive_iff]
    change ∃ sent killed, _ ∧ s.Escalates w _
      (((w.tracking.worker? id).filter fun x => !w.tracking.hasExited x).isSome = true) _ _
    cases hmanaged : (w.tracking.worker? id).filter fun x => !w.tracking.hasExited x with
    | some x =>
      have hx := (hw.workers id x (Option.filter_eq_some_iff.1 hmanaged).1).1
      obtain ⟨killed, hescalates⟩ := s.stopManaged_escalates hsound hx rfl
      exact ⟨[x.pid], killed, List.prefix_refl _, hescalates.congr rfl rfl⟩
    | none =>
      have hlook := s.otherWorkers_within (R := Eq) id (w.withoutWorker id)
      obtain ⟨sent, killed, hsent, hescalates⟩ := s.stopFound_escalates
        (s.stopOthers .worker (some id)) hlook.symm
        (fun pids hpids => (s.otherWorkers_ok (Prod.ext hpids hlook.symm)).2)
        (s.stopOthers_escalates (w.withoutWorker id) .worker (some id) (s.othersOf_sublist _ id)
          Bool.false_ne_true)
      exact ⟨sent, killed, hsent, hescalates.congr rfl rfl⟩

/-- A stop of the worker may signal this process: that of the handle, if that is not known to have
ended, and else those that are listed as workers of the id and not tracked under another. -/
def AimsAt (w : World σ) (id : String) (pid : Nat) : Prop :=
  (∃ x, w.tracking.worker? id = some x ∧ w.tracking.hasExited x = false ∧ x.pid = pid) ∨
    (∀ x, w.tracking.worker? id = some x → w.tracking.hasExited x = true) ∧
      pid ∈ w.host.listing (s.name .worker) ∧ w.host.carries id pid = true ∧
      ∀ k y, k ≠ id → w.tracking.worker? k = some y → y.pid ≠ pid

theorem worker?_withoutWorker {w : World σ} {id k : String} (hk : k ≠ id) :
    (w.withoutWorker id).tracking.worker? k = w.tracking.worker? k := by
  rw [World.withoutWorker, Tracking.removeWorker, Tracking.worker?, Registry.get?_erase, if_neg hk]
  rfl

theorem aimsAt_of_mem {w : World σ} {id : String} {pid : Nat} (hpid : pid ∈ s.workerTargets w id) :
    s.AimsAt w id pid := by
  rw [workerTargets] at hpid
  cases hmanaged : (w.tracking.worker? id).filter fun x => !w.tracking.hasExited x with
  | some x =>
    rw [hmanaged] at hpid
    obtain ⟨hx, hlive⟩ := Option.filter_eq_some_iff.1 hmanaged
    rw [Bool.not_eq_true'] at hlive
    exact .inl ⟨x, hx, hlive, (List.mem_singleton.1 hpid).symm⟩
  | none =>
    rw [hmanaged] at hpid
    obtain ⟨hfound, huntracked⟩ := List.mem_filter.1 hpid
    obtain ⟨hlisted, hcarries⟩ := List.mem_filter.1 hfound
    refine .inr ⟨fun x hx => ?_, hlisted, hcarries, fun k y hk hy hsame => ?_⟩
    · have hended := Option.filter_eq_none_iff.1 hmanaged x hx
      simpa using hended
    · -- The handle under the other id is still tracked when the list is made.
      rw [← worker?_withoutWorker hk] at hy
      have hmem : y ∈ (w.withoutWorker id).tracking.workerHandles :=
        (List.mergeSort_perm _ _).mem_iff.2 (Registry.mem_values_of_get? hy)
      have htracked := List.mem_map_of_mem (f := Handle.pid) hmem
      rw [hsame, ← List.contains_iff_mem] at htracked
      rw [htracked] at huntracked
      cases huntracked

theorem not_aimsAt_of_other {w : World σ} (hw : w.Sound)
    (hnodup : (w.started.map Handle.generation).Nodup) {id k : String} (hk : k ≠ id) {y : Handle}
    (hy : w.tracking.worker? k = some y) : y.pid ∉ s.workerTargets w id := by
  intro hpid
  rcases s.aimsAt_of_mem hpid with ⟨x, hx, -, hsame⟩ | ⟨-, -, -, hother⟩
  · obtain ⟨hxstarted, hxid⟩ := hw.workers id x hx
    obtain ⟨hystarted, hyid⟩ := hw.workers k y hy
    obtain rfl := hw.eq_of_pid_eq hnodup hxstarted hystarted hsame
    exact hk (Option.some.inj (hyid.symm.trans hxid))
  · exact hother k y hk hy rfl

theorem stopWorker_spares {w : World σ} (hw : w.Sound)
    (hnodup : (w.started.map Handle.generation).Nodup) {id k : String} (hk : k ≠ id) :
    let v := (w.attempt (s.stopWorker id)).2
    (∀ y, v.tracking.worker? k = some y → w.tracking.worker? k = some y) ∧
      ∀ y, w.tracking.worker? k = some y → (w.Runs y → v.Runs y) ∧
        (v.tracking.worker? k = some y ∨ v.tracking.hasExited y = true ∧ ¬ w.Runs y) := by
  intro v
  cases hid : checked (Identifier.check "worker id" id) with
  | error e =>
    have hrefused : v = w := by
      change (w.attempt (s.stopWorker id)).2 = w
      rw [stopWorker, World.attempt_bind, World.attempt_check, hid]
    rw [hrefused]
    exact ⟨fun _ hy => hy, fun _ hy => ⟨fun hruns => hruns, .inl hy⟩⟩
  | ok u =>
    have halone : (w.withoutWorker id).LeavesAlone (s.workerTargets w id) v :=
      s.stopWorker_leavesAlone hw hid
    refine ⟨fun y hy => ?_, fun y hy => ?_⟩
    · rw [← worker?_withoutWorker hk]
      exact halone.placed (some k) y hy
    · have hother := s.not_aimsAt_of_other hw hnodup hk hy
      rw [← worker?_withoutWorker hk] at hy
      exact ⟨halone.runs hother, halone.kept (some k) y hy hother⟩

/-- A stop of a worker signals the process of the handle under the id, or else those that are listed
as workers of the id and not tracked under another. Workers that are tracked under other ids run on
with their handles in place; only the end of one that had ended before may be noticed meanwhile. In
every stop a process gets each signal once at most, the forceful one only after the graceful one and
if it is there still, and a stop is reported as forced just when a process got it that is not
managed. -/
theorem stops_escalate (names : NameSource) (coordinator : σ) (host : Host) (time : String)
    (events : List Event) :
    let start : World σ := .initial coordinator { host with children := [] } time
    let w := s.afterAll names start events
    (∃ sent killed, sent <+: s.coordinatorTargets w ∧
      s.Escalates w (w.attempt s.stopCoordinator) (w.HoldsLive none) sent killed) ∧
    ∀ id,
      let done := w.attempt (s.stopWorker id)
      (∃ sent killed, (∀ pid ∈ sent, s.AimsAt w id pid) ∧
        s.Escalates w done (w.HoldsLive (some id)) sent killed) ∧
      ∀ k, k ≠ id → (∀ y, done.2.tracking.worker? k = some y → w.tracking.worker? k = some y) ∧
        ∀ y, w.tracking.worker? k = some y → (w.Runs y → done.2.Runs y) ∧
          (done.2.tracking.worker? k = some y ∨
            done.2.tracking.hasExited y = true ∧ ¬ w.Runs y) := by
  intro start w
  have hstart : start.Sound := sound_initial coordinator _ time rfl
  have hw : w.Sound := s.sound_afterAll names hstart events
  have hnodup : (w.started.map Handle.generation).Nodup :=
    s.nodup_generations_afterAll names hstart List.nodup_nil events
  refine ⟨s.stopCoordinator_escalates hw,
    fun id => ⟨?_, fun k hk => s.stopWorker_spares hw hnodup hk⟩⟩
  obtain ⟨sent, killed, hsent, hescalates⟩ := s.stopWorker_escalates hw id
  exact ⟨sent, killed, fun pid hpid => s.aimsAt_of_mem (hsent.subset hpid), hescalates⟩

/-- Of two workers that others have started under the id, one has to be killed. A third one and the
managed worker of another id are not touched. -/
theorem stops_escalate_stubborn :
    let command (id : String) : List String := ["proof-worker", "--worker-id", id]
    let others : Outsiders :=
      { named := [("proof-worker", [51, 52, 53])]
        argv := [(51, command "x"), (52, command "x"), (53, command "y")]
        stubborn := [51] }
    let w := furnished.afterAll .blank (.initial () (.furnished {}) "")
      [.startWorker ⟨"/worker", "/input", none, some "w"⟩, .outside others]
    let y : Handle := ⟨.worker, some "w", Host.firstPid, "/worker", "", some 10, 1⟩
    let done := w.attempt (furnished.stopWorker "x")
    done.1 = .ok (.stopped [51, 52] false true) ∧
      done.2.signals = [(51, .graceful), (52, .graceful), (51, .forceful)] ∧
      (∃ sent killed : List Nat, sent.Nodup ∧ killed.Nodup ∧ killed ≠ [] ∧
        done.2.signals = w.signals ++ sent.map (·, .graceful) ++ killed.map (·, .forceful)) ∧
      w.tracking.worker? "w" = some y ∧ done.2.tracking.worker? "w" = some y ∧ done.2.Runs y := by
  intro command others w y done
  have hdone : done.1 = .ok (.stopped [51, 52] false true) := by decide +kernel
  have hlists : ∀ role, (w.host.listing (furnished.name role)).Nodup := by
    intro role
    cases role with
    | coordinator => decide +kernel
    | worker => decide +kernel
  have hy : w.tracking.worker? "w" = some y := by decide +kernel
  have hruns : ∃ c ∈ w.host.children, c.pid = Host.firstPid ∧ c.isRunning = true := by
    decide +kernel
  obtain ⟨-, hworkers⟩ := furnished.stops_escalate .blank () (.furnished {}) ""
    [.startWorker ⟨"/worker", "/input", none, some "w"⟩, .outside others]
  obtain ⟨⟨sent, killed, -, hescalates⟩, hothers⟩ := hworkers "x"
  obtain ⟨hsent, hkilled⟩ := hescalates.once hlists
  obtain ⟨hruns', hplace⟩ := (hothers "w" (by decide)).2 y hy
  refine ⟨hdone, by decide +kernel, ⟨sent, killed, hsent, hkilled,
    ((hescalates.forced _ hdone).1 rfl).2, hescalates.signals⟩, hy, ?_, hruns' hruns⟩
  exact hplace.resolve_right fun hgone => hgone.2 hruns

end Supervisor

end CoordinatorGateway
