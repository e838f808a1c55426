import CoordinatorGateway.Proofs.Supervisor.Coordinators
import CoordinatorGateway.Proofs.Supervisor.Survivors

namespace CoordinatorGateway

variable {σ : Type}

namespace World

structure Manages (w : World σ) (x : Handle) : Prop where
  tracked : w.tracking.coordinator = some x
  notExited : w.tracking.hasExited x = false
  alive : w.host.isAlive x.pid = true

variable {w : World σ} {x : Handle}

theorem coordinator?_eq_some_iff : w.coordinator? = some x ↔ w.Manages x := by
  rw [coordinator?, Option.filter_eq_some_iff, Bool.and_eq_true, Bool.not_eq_true']
  exact ⟨fun h => ⟨h.1, h.2.1, h.2.2⟩, fun h => ⟨h.1, h.2, h.3⟩⟩

/-- In a run on a machine on which each number stands for one process, alive is what runs. -/
theorem manages_iff_runs (hw : w.Sound) (hd : w.host.Distinct) :
    w.Manages x ↔ w.tracking.coordinator = some x ∧ w.Runs x := by
  constructor
  · intro h
    have hx := (hw.coordinator x h.tracked).1
    exact ⟨h.tracked, Supervisor.runs_of_isAlive hw hd hx h.alive⟩
  · rintro ⟨htracked, hruns⟩
    have hx := (hw.coordinator x htracked).1
    exact ⟨htracked, hruns.not_exited hw hx, Host.isAlive_iff.2 (.inl hruns)⟩

@[simp] theorem coordinator?_tidied (w : World σ) : w.tidied.coordinator? = w.coordinator? := by
  change (w.coordinator?.filter fun x => !w.tracking.hasExited x && w.host.isAlive x.pid) = _
  rw [coordinator?, Option.filter_filter]
  congr 1
  funext x
  rw [Bool.and_self]

/-- Nothing changes but that handles are dropped: that of a dead coordinator, and where none runs
those of all workers. -/
structure Tidies (w v : World σ) (running : Bool) : Prop where
  rest : v = { w with tracking := v.tracking }
  forgets : w.tracking.Forgets v.tracking
  kept : ∀ x, w.Manages x → v.Manages x
  noDead : ∀ x, v.tracking.coordinator = some x → v.Manages x
  workers : running = true → v.tracking.workers = w.tracking.workers
  nothing : running = false → v.tracking.handles = []

theorem tidied_manages : w.tidied.Manages x ↔ w.Manages x := by
  rw [← coordinator?_eq_some_iff, coordinator?_tidied, coordinator?_eq_some_iff]

theorem noDead_tidied (hx : w.tidied.tracking.coordinator = some x) : w.tidied.Manages x :=
  tidied_manages.2 (coordinator?_eq_some_iff.1 hx)

theorem coordinator?_eq_none_iff : w.coordinator? = none ↔ ∀ x, ¬ w.Manages x := by
  simp only [← coordinator?_eq_some_iff, Option.eq_none_iff_forall_ne_some]

theorem tidies_tidied (w : World σ) : w.Tidies w.tidied true where
  rest := rfl
  forgets := forgets_tidied w
  kept _ hx := tidied_manages.2 hx
  noDead _ hx := noDead_tidied hx
  workers _ := rfl
  nothing h := nomatch h

theorem tidies_withoutWorkers (hnone : w.coordinator? = none) :
    w.Tidies w.tidied.withoutWorkers false where
  rest := rfl
  forgets := ⟨w.coordinator?_eq_none_or, nofun, rfl, rfl⟩
  kept x hx := absurd hx (coordinator?_eq_none_iff.1 hnone x)
  noDead x hx := by
    change w.coordinator? = some x at hx
    rw [hnone] at hx
    cases hx
  workers h := nomatch h
  nothing _ := congrArg Option.toList hnone

end World

/-- The status says of the processes that are listed what is so. -/
structure CoordinatorStatus.Tells (status : CoordinatorStatus) (w : World σ) (listed : List Nat) :
    Prop where
  running : status.running = true ↔
    (∃ x, w.Manages x) ∨ ∃ pid ∈ listed, ∀ x, w.Manages x → pid ≠ x.pid
  managed : status.managed = true ↔ ∃ x, w.Manages x
  ofManaged : ∀ x, w.Manages x → status.pid = some x.pid ∧
    status.startedAt = some x.startedAt ∧ status.program = some x.program
  ofOthers : (∀ x, ¬ w.Manages x) →
    status.pid = status.others.head? ∧ status.startedAt = none ∧ status.program = none
  others : ∀ pid, pid ∈ status.others ↔ pid ∈ listed ∧ ∀ x, w.Manages x → pid ≠ x.pid
  ordered : status.others.Sublist listed

namespace Supervisor

variable (s : Supervisor)

theorem ne_tracked_iff {w : World σ} {pid : Nat} :
    (some pid != w.coordinator?.map Handle.pid) = true ↔ ∀ x, w.Manages x → pid ≠ x.pid := by
  simp only [bne_iff_ne, ← World.coordinator?_eq_some_iff]
  cases w.coordinator? with
  | none => simp
  | some x => simp

theorem mem_others_iff {w : World σ} {pid : Nat} : pid ∈ s.others w ↔
    pid ∈ w.host.listing (s.name .coordinator) ∧ ∀ x, w.Manages x → pid ≠ x.pid := by
  rw [others, List.mem_filter, ne_tracked_iff]

theorem running_statusSeen_iff {w : World σ} : (s.statusSeen w).running = true ↔
    (∃ x, w.Manages x) ∨ ∃ pid, pid ∈ s.others w := by
  have hothers : (!(s.others w).isEmpty) = true ↔ ∃ pid, pid ∈ s.others w := by
    rw [Bool.not_eq_true', List.isEmpty_eq_false_iff_exists_mem]
  rw [statusSeen]
  dsimp only
  rw [Bool.or_eq_true, hothers, Option.isSome_iff_exists]
  simp only [World.coordinator?_eq_some_iff]

theorem tells_statusSeen (w : World σ) :
    (s.statusSeen w).Tells w (w.host.listing (s.name .coordinator)) where
  running := by
    rw [running_statusSeen_iff]
    simp only [mem_others_iff]
  managed := by
    rw [statusSeen]
    simp only [Option.isSome_iff_exists, World.coordinator?_eq_some_iff]
  ofManaged x hx := by
    rw [statusSeen, World.coordinator?_eq_some_iff.2 hx]
    exact ⟨rfl, rfl, rfl⟩
  ofOthers hnone := by
    rw [statusSeen, World.coordinator?_eq_none_iff.2 hnone]
    exact ⟨rfl, rfl, rfl⟩
  others pid := s.mem_others_iff
  ordered := List.filter_sublist

theorem tidies_afterStatus (w : World σ) :
    w.Tidies (s.afterStatus w) (s.statusSeen w).running := by
  rw [afterStatus]
  cases hrunning : (s.statusSeen w).running with
  | true =>
    rw [if_pos rfl]
    exact w.tidies_tidied
  | false =>
    rw [if_neg Bool.false_ne_true]
    apply World.tidies_withoutWorkers
    rw [World.coordinator?_eq_none_iff]
    intro x hx
    have hruns := s.running_statusSeen_iff.2 (.inl ⟨x, hx⟩)
    rw [hrunning] at hruns
    cases hruns

theorem coordinator?_afterStatus (w : World σ) :
    (s.afterStatus w).coordinator? = w.coordinator? := by
  rw [afterStatus]
  split
  · exact w.coordinator?_tidied
  · exact w.coordinator?_tidied

theorem host_afterStatus (w : World σ) : (s.afterStatus w).host = w.host := by
  rw [afterStatus]
  split
  · rfl
  · rfl

theorem statusSeen_afterStatus (w : World σ) : s.statusSeen (s.afterStatus w) = s.statusSeen w := by
  rw [statusSeen, statusSeen, others, others, coordinator?_afterStatus, host_afterStatus]

theorem tidied_afterStatus (w : World σ) : (s.afterStatus w).tidied = s.afterStatus w := by
  rw [World.tidied, coordinator?_afterStatus, afterStatus]
  split
  · rfl
  · rfl

theorem afterStatus_afterStatus (w : World σ) :
    s.afterStatus (s.afterStatus w) = s.afterStatus w := by
  rw [afterStatus, statusSeen_afterStatus, tidied_afterStatus]
  split
  · rfl
  · next hrunning =>
    rw [afterStatus, if_neg hrunning]
    rfl

theorem attempt_workerStatus_of_nothing {w v : World σ} {status : CoordinatorStatus}
    (h : w.attempt s.coordinatorStatus = (.ok status, v)) (hnothing : status.running = false) :
    w.attempt s.workerStatus = (.ok [], v) := by
  rw [workerStatus, World.attempt_bind_ok h, hnothing]
  rfl

/-- A look at the coordinator tells what runs and tidies up what is tracked. A second one says the
same and changes nothing, and where no coordinator runs no worker is told of. Where processes cannot
be listed, the handle of a dead coordinator is dropped all the same. -/
theorem coordinatorStatus_faithful (w : World σ) :
    (∀ e, w.host.find (s.name .coordinator) = .error e →
      ∃ v, w.attempt s.coordinatorStatus = (.error (.notInspected e), v) ∧ w.Tidies v true) ∧
    (∀ pids, w.host.find (s.name .coordinator) = .ok pids →
      ∃ status v, w.attempt s.coordinatorStatus = (.ok status, v) ∧
        status.Tells w pids ∧ w.Tidies v status.running ∧
        v.attempt s.coordinatorStatus = (.ok status, v) ∧
        (status.running = false → v.attempt s.workerStatus = (.ok [], v))) ∧
    (w.Sound → w.host.Distinct →
      ∀ x, w.Manages x ↔ w.tracking.coordinator = some x ∧ w.Runs x) := by
  refine ⟨fun e he => ?_, fun pids hpids => ?_, fun hw hd x => World.manages_iff_runs hw hd⟩
  · rw [Host.find_eq] at he
    have hstatus := s.attempt_coordinatorStatus w
    cases hfail : w.host.outsiders.failFind with
    | none =>
      rw [hfail] at he
      cases he
    | some e' =>
      rw [hfail] at he hstatus
      obtain rfl := Except.error.inj he
      exact ⟨w.tidied, hstatus, w.tidies_tidied⟩
  · rw [Host.find_eq] at hpids
    have hstatus := s.attempt_coordinatorStatus w
    have hagain := s.attempt_coordinatorStatus (s.afterStatus w)
    rw [host_afterStatus, statusSeen_afterStatus, afterStatus_afterStatus] at hagain
    cases hfail : w.host.outsiders.failFind with
    | some e =>
      rw [hfail] at hpids
      cases hpids
    | none =>
      rw [hfail] at hpids hstatus hagain
      obtain rfl := Except.ok.inj hpids
      exact ⟨s.statusSeen w, s.afterStatus w, hstatus, s.tells_statusSeen w, s.tidies_afterStatus w,
        hagain, s.attempt_workerStatus_of_nothing hagain⟩

/-- The end of the coordinator has not been noticed. The look finds none running, and drops its
handle and that of the worker, which runs on. -/
theorem coordinatorStatus_faithful_ended :
    let w := furnished.afterAll .blank (.initial () (.furnished {}) "")
      [.startCoordinator, .startWorker ⟨"/worker", "/input", none, some "w"⟩,
        .exit Host.firstPid ⟨some 0⟩]
    w.tracking.handles.map Handle.pid = [7000002, 7000001] ∧
      ∃ v, w.attempt furnished.workerStatus = (.ok [], v) ∧ v.tracking.handles = [] := by
  intro w
  have hlisted : w.host.find (furnished.name .coordinator) = .ok [] := by decide +kernel
  obtain ⟨-, hlooks, -⟩ := furnished.coordinatorStatus_faithful w
  obtain ⟨status, v, hstatus, htells, htidies, -, -⟩ := hlooks [] hlisted
  have hdead : w.coordinator? = none := by decide +kernel
  have hrunning : status.running = false := by
    rw [← Bool.not_eq_true, htells.running]
    rintro (⟨x, hx⟩ | ⟨pid, hpid, -⟩)
    · exact World.coordinator?_eq_none_iff.1 hdead x hx
    · cases hpid
  exact ⟨by decide +kernel, v, furnished.attempt_workerStatus_of_nothing hstatus hrunning,
    htidies.nothing hrunning⟩

end Supervisor

end CoordinatorGateway
