import CoordinatorGateway.Proofs.Processes.Listing
import CoordinatorGateway.Proofs.Supervisor.Survivors

namespace CoordinatorGateway

variable {σ α : Type} {targets : List Nat}

namespace World

/-- Since then signals have been sent to these processes at most. -/
def SignalsOnly (targets : List Nat) (w w' : World σ) : Prop :=
  ∃ effects, w'.trace = w.trace ++ effects ∧ ∀ pid s, Effect.signal pid s ∈ effects → pid ∈ targets

variable {w w' w'' : World σ}

theorem signalsOnly_of_trace_eq (h : w'.trace = w.trace) : w.SignalsOnly targets w' :=
  ⟨[], h.trans (List.append_nil _).symm, fun _ _ he => nomatch he⟩

theorem SignalsOnly.trans (h : w.SignalsOnly targets w') (h' : w'.SignalsOnly targets w'') :
    w.SignalsOnly targets w'' := by
  obtain ⟨effects, heffects, htargets⟩ := h
  obtain ⟨effects', heffects', htargets'⟩ := h'
  refine ⟨effects ++ effects', ?_, fun pid s he => ?_⟩
  · rw [heffects', heffects, List.append_assoc]
  · rcases List.mem_append.1 he with he | he
    · exact htargets pid s he
    · exact htargets' pid s he

instance : IsPreorder (World σ) (SignalsOnly targets) where
  refl _ := signalsOnly_of_trace_eq rfl
  trans _ _ _ := SignalsOnly.trans

theorem SignalsOnly.mem {pid : Nat} {s : Signal} (h : w.SignalsOnly targets w')
    (hsent : .signal pid s ∈ w'.trace) : .signal pid s ∈ w.trace ∨ pid ∈ targets := by
  obtain ⟨effects, heffects, htargets⟩ := h
  rw [heffects] at hsent
  exact (List.mem_append.1 hsent).imp_right (htargets pid s)

end World

open World

abbrev Act.SignalsOnly (targets : List Nat) (act : Act σ α) : Prop :=
  act.Within (World.SignalsOnly targets)

abbrev Attempt.SignalsOnly (targets : List Nat) (a : Attempt SupervisorFault σ α) : Prop :=
  a.Within (World.SignalsOnly targets)

namespace Supervisor

open Attempt (surely)

variable (s : Supervisor)

theorem signal_signalsOnly {pid : Nat} (hpid : pid ∈ targets) (signal : Signal) :
    Act.SignalsOnly targets (World.signal pid signal : Act σ (Except String Bool)) := by
  intro w
  refine ⟨[.signal pid signal], rfl, fun p s' he => ?_⟩
  obtain ⟨rfl, -⟩ := Effect.signal.inj (List.mem_singleton.1 he)
  exact hpid

theorem record_signalsOnly (e : AuditEvent) :
    Act.SignalsOnly targets (s.record e : Act σ Unit) := by
  intro w
  rw [record, World.record]
  split
  · refine ⟨[.audit e], rfl, fun pid s' he => ?_⟩
    cases List.mem_singleton.1 he
  · exact signalsOnly_of_trace_eq rfl

theorem dropWorkers_signalsOnly : Act.SignalsOnly targets (dropWorkers : Act σ Unit) :=
  fun _ => signalsOnly_of_trace_eq rfl

theorem thenDropWorkers_signalsOnly {a : Attempt SupervisorFault σ α} (h : a.SignalsOnly targets) :
    (thenDropWorkers a).SignalsOnly targets := by
  apply Attempt.Within.bind h
  intro outcome
  apply Attempt.Within.bind (.surely dropWorkers_signalsOnly)
  intro u
  exact .pure _

theorem stopManaged_signalsOnly {x : Handle} (hx : x.pid ∈ targets) :
    (s.stopManaged x : Attempt SupervisorFault σ StopOutcome).SignalsOnly targets :=
  s.stopManaged_within s.record_signalsOnly (signal_signalsOnly hx)

theorem stopOthers_signalsOnly (role : Role) (workerId : Option String) :
    (s.stopOthers role workerId targets : Attempt SupervisorFault σ StopOutcome).SignalsOnly
      targets :=
  s.stopOthers_within s.record_signalsOnly role workerId fun _ => signal_signalsOnly

theorem stopCoordinator_signalsOnly (w : World σ) :
    w.SignalsOnly (s.coordinatorTargets w) (w.attempt s.stopCoordinator).2 := by
  have htaken : w.SignalsOnly (s.coordinatorTargets w) w.withoutCoordinator :=
    signalsOnly_of_trace_eq rfl
  refine htaken.trans ?_
  rw [attempt_stopCoordinator, coordinatorTargets]
  cases w.tracking.coordinator.filter fun x => !w.tracking.hasExited x with
  | some x =>
    exact thenDropWorkers_signalsOnly (s.stopManaged_signalsOnly (List.mem_singleton.2 rfl)) _
  | none =>
    dsimp only
    rw [World.attempt_bind]
    rcases hothers : w.withoutCoordinator.attempt (s.otherCoordinators none) with ⟨e | pids, v⟩
    · have hlook := s.otherCoordinators_within (R := Eq) none w.withoutCoordinator
      rw [hothers] at hlook
      obtain rfl := hlook
      exact signalsOnly_of_trace_eq rfl
    · rw [attempt_allCoordinators] at hothers
      obtain ⟨-, rfl, rfl⟩ := s.listed_ok hothers
      exact Attempt.Within.ite (.pure _)
        (thenDropWorkers_signalsOnly (s.stopOthers_signalsOnly .coordinator none)) _

theorem stopWorker_signalsOnly (w : World σ) (id : String) :
    w.SignalsOnly (s.workerTargets w id) (w.attempt (s.stopWorker id)).2 := by
  cases hid : checked (Identifier.check "worker id" id) with
  | error e =>
    have hrefused : w.attempt (s.stopWorker id) = (.error e, w) := by
      rw [stopWorker, World.attempt_bind, World.attempt_check, hid]
    rw [hrefused]
    exact signalsOnly_of_trace_eq rfl
  | ok u =>
    have htaken : w.SignalsOnly (s.workerTargets w id) (w.withoutWorker id) :=
      signalsOnly_of_trace_eq rfl
    refine htaken.trans ?_
    rw [s.attempt_stopWorker hid, workerTargets]
    cases (w.tracking.worker? id).filter fun x => !w.tracking.hasExited x with
    | some x => exact s.stopManaged_signalsOnly (List.mem_singleton.2 rfl) _
    | none =>
      dsimp only
      rw [World.attempt_bind]
      rcases hothers : (w.withoutWorker id).attempt (s.otherWorkers id) with ⟨e | pids, v⟩
      · have hlook := s.otherWorkers_within (R := Eq) id (w.withoutWorker id)
        rw [hothers] at hlook
        obtain rfl := hlook
        exact signalsOnly_of_trace_eq rfl
      · obtain ⟨rfl, rfl⟩ := s.otherWorkers_ok hothers
        exact Attempt.Within.ite (.pure _) (s.stopOthers_signalsOnly .worker (some id)) _

theorem coordinatorTargets_listed {w : World σ} {pid : Nat} (h : pid ∈ s.coordinatorTargets w) :
    (∃ x, w.tracking.coordinator = some x ∧ x.pid = pid) ∨
      pid ∈ w.host.listing (s.name .coordinator) := by
  rw [coordinatorTargets] at h
  cases hmanaged : w.tracking.coordinator.filter fun x => !w.tracking.hasExited x with
  | some x =>
    rw [hmanaged] at h
    exact .inl ⟨x, (Option.filter_eq_some_iff.1 hmanaged).1, (List.mem_singleton.1 h).symm⟩
  | none =>
    rw [hmanaged] at h
    exact .inr h

theorem workerTargets_listed {w : World σ} {id : String} {pid : Nat}
    (h : pid ∈ s.workerTargets w id) :
    (∃ x, w.tracking.worker? id = some x ∧ x.pid = pid) ∨
      pid ∈ w.host.listing (s.name .worker) := by
  rw [workerTargets] at h
  cases hmanaged : (w.tracking.worker? id).filter fun x => !w.tracking.hasExited x with
  | some x =>
    rw [hmanaged] at h
    exact .inl ⟨x, (Option.filter_eq_some_iff.1 hmanaged).1, (List.mem_singleton.1 h).symm⟩
  | none =>
    rw [hmanaged] at h
    exact .inr (List.mem_filter.1 (List.mem_filter.1 h).1).1

/-- What is found under a name are the live processes of the executable just when no other one is
taken for them and none of them is missed; of plain file names, when no other one has the short
name. A stop signals none but the managed process and those that are listed. -/
theorem find_exact_iff (t : Population) (name : String) (w : World σ) :
    (t.table.find name).Pairwise (· < ·) ∧
    (t.Names name (t.table.find name) ↔
      ∀ p ∈ t.processes, p.alive = true → p.pid ≠ t.own →
        (executableName p.fileName = name ∨ p.SharesShortName name ↔ stem p.fileName = name)) ∧
    ((∀ p ∈ t.processes, NamedProcess.Plain p.fileName) →
      (t.Names name (t.table.find name) ↔
        ∀ p ∈ t.processes, p.alive = true → p.pid ≠ t.own →
          shortName p.fileName = shortName name → stem p.fileName = name)) ∧
    (∀ pid signal, .signal pid signal ∈ (w.attempt s.stopCoordinator).2.trace →
      .signal pid signal ∈ w.trace ∨ (∃ x, w.tracking.coordinator = some x ∧ x.pid = pid) ∨
        pid ∈ w.host.listing (s.name .coordinator)) ∧
    ∀ id pid signal, .signal pid signal ∈ (w.attempt (s.stopWorker id)).2.trace →
      .signal pid signal ∈ w.trace ∨ (∃ x, w.tracking.worker? id = some x ∧ x.pid = pid) ∨
        pid ∈ w.host.listing (s.name .worker) := by
  refine ⟨t.table.ascending_find name, t.names_find_iff, t.names_find_iff_of_plain,
    fun pid signal hsent => ?_, fun id pid signal hsent => ?_⟩
  · exact ((s.stopCoordinator_signalsOnly w).mem hsent).imp_right s.coordinatorTargets_listed
  · exact ((s.stopWorker_signalsOnly w id).mem hsent).imp_right s.workerTargets_listed

theorem find_exact_iff_plain :
    let worker : NamedProcess := ⟨3, "/opt/", "proof-worker.exe", [], true, by decide, by decide,
      by decide⟩
    let other : NamedProcess := ⟨2, "", "proof-coordinator", [], true, by decide, by decide,
      by decide⟩
    let t : Population := ⟨[worker, other], 1, by decide⟩
    t.Names "proof-worker" [3] := by
  intro worker other t
  obtain ⟨-, -, hplain, -, -⟩ :=
    furnished.find_exact_iff t "proof-worker" (World.initial () (.furnished {}) "")
  have hfound : t.table.find "proof-worker" = [3] := by decide +kernel
  rw [← hfound]
  exact (hplain (by decide +kernel)).2 (by decide +kernel)

/-- A process of another executable that has the short name is found, and a worker that runs such an
executable is taken for a coordinator and stopped as one. -/
theorem find_confuses_executables :
    let p : NamedProcess := ⟨2, "/bin/", "proof-coordinated", [], true, by decide, by decide,
      by decide⟩
    let t : Population := ⟨[p], 1, by decide⟩
    let host : Host :=
      { Host.furnished {} with files := ⟨[(["proof-coordinated"], .file ⟨"", true, .runs⟩)]⟩ }
    let s : Supervisor :=
      { furnished with workerLocator := { explicit := some "/proof-coordinated" } }
    let w := s.afterAll .blank (.initial () host "")
      [.startWorker ⟨"/proof-coordinated", "/input", none, some "w"⟩]
    t.table.find "proof-coordinator" = [2] ∧ ¬ t.Names "proof-coordinator" [2] ∧
      s.name .coordinator = "proof-coordinator" ∧
      (w.attempt s.coordinatorStatus).1 = .ok ⟨true, false, some 7000001, [7000001], none, none⟩ ∧
      (w.attempt s.stopCoordinator).1 = .ok (.stopped [7000001] false false) ∧
      (w.attempt s.stopCoordinator).2.signalled 7000001 = true := by
  intro p t host s w
  refine ⟨by decide +kernel, fun h => ?_, rfl, by decide +kernel, by decide +kernel,
    by decide +kernel⟩
  obtain ⟨q, hq, -, -, -, hstem⟩ := (h.mem_iff 2).1 (List.mem_singleton.2 rfl)
  rw [List.mem_singleton.1 hq] at hstem
  have hother : stem "proof-coordinated" ≠ "proof-coordinator" := by decide +kernel
  exact hother hstem

end Supervisor

end CoordinatorGateway
