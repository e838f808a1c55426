import CoordinatorGateway.Proofs.Supervisor.FailedStarts
import CoordinatorGateway.Proofs.Supervisor.Status
import CoordinatorGateway.Proofs.Validation.Identifiers
import Mathlib.Data.List.Induction
import Mathlib.Data.List.Nodup

namespace CoordinatorGateway

variable {σ : Type}

/-- Workers that come without an id are called by eight hexadecimal digits. -/
def NameSource.NamesWorkers (names : NameSource) : Prop :=
  ∀ n, ∃ digits : List Char, digits.length = 8 ∧
    (∀ c ∈ digits, '0' ≤ c ∧ c ≤ '9' ∨ 'a' ≤ c ∧ c ≤ 'f') ∧
      names.worker n = "worker-" ++ String.ofList digits

theorem NameSource.NamesWorkers.wellFormed {names : NameSource} (h : names.NamesWorkers) (n : Nat) :
    Identifier.WellFormed (names.worker n) := by
  obtain ⟨digits, hcount, hdigits, hname⟩ := h n
  have hlength : (names.worker n).length = 15 := by
    have hdigitCount : (String.ofList digits).length = 8 := String.length_ofList.trans hcount
    rw [hname, String.length_append, hdigitCount]
    rfl
  refine ⟨by omega, by omega, fun c hc => ?_, fun hreserved => ?_⟩
  · rw [hname, String.toList_append, List.mem_append] at hc
    rcases hc with hc | hc
    · have hword : "worker-".toList.all Identifier.isAllowed = true := by decide
      exact Identifier.isAllowed_iff.1 (List.all_eq_true.1 hword c hc)
    · rw [String.toList_ofList] at hc
      rcases hdigits c hc with hdigit | ⟨hlow, hhigh⟩
      · exact .inr (.inr (.inl hdigit))
      · exact .inr (.inl ⟨hlow, Char.le_trans hhigh (by decide)⟩)
  · have hshort : ∀ word ∈ ["undefined", "null", "true", "false"], word.length < 15 := by decide
    have hlt := hshort _ hreserved
    omega

theorem Tracking.installCoordinator_worker? (t : Tracking) (h : Handle) (id : String) :
    (t.installCoordinator h).2.worker? id = t.worker? id := by
  rw [installCoordinator]
  split
  · split
    · rfl
    · rfl
  · rfl

namespace World

def FillsNone (w w' : World σ) : Prop :=
  ∀ id x, w'.tracking.worker? id = some x → w.tracking.worker? id = some x

instance : IsPreorder (World σ) FillsNone where
  refl _ _ _ hx := hx
  trans _ _ _ h h' id x hx := h id x (h' id x hx)

end World

/-- The entry is about the worker that was started, and says of its process whether it runs, unless
another process has got the number. -/
structure WorkerStatus.Tells (entry : WorkerStatus) (w : World σ) (p : StartedProcess) : Prop where
  pid : entry.pid = p.pid
  capacity : entry.capacity = p.capacity
  running : w.host.outsiders.has p.pid = false →
    (entry.running = true ↔ ∃ c ∈ w.host.children, c.pid = p.pid ∧ c.isRunning = true)

theorem Tracking.mem_keys_iff {t : Tracking} {id : String} :
    id ∈ t.workers.keys ↔ ∃ x, t.worker? id = some x := by
  constructor
  · intro h
    obtain ⟨entry, hentry, rfl⟩ := List.mem_map.1 h
    exact ⟨entry.2, Registry.lookup_eq_some_of_mem t.workers.sorted hentry⟩
  · rintro ⟨x, hx⟩
    obtain ⟨before, after, hentries, -⟩ := List.lookup_eq_some_iff.1 hx
    rw [Registry.keys, hentries, List.map_append]
    exact List.mem_append_right _ List.mem_cons_self

namespace Supervisor

open World

variable (s : Supervisor) (names : NameSource)

def startedWorker? (w : World σ) : Event → Option StartedProcess
  | .startWorker launch => (w.attempt (s.startWorker names launch)).1.toOption
  | _ => none

def startedWorkers (w : World σ) : List Event → List StartedProcess
  | [] => []
  | e :: events =>
    (s.startedWorker? names w e).toList ++ startedWorkers (s.after names w e) events

def latestStart? (w : World σ) (events : List Event) (id : String) : Option StartedProcess :=
  ((s.startedWorkers names w events).filter fun p => p.workerId == some id).getLast?

theorem startedWorkers_concat (w : World σ) (events : List Event) (e : Event) :
    s.startedWorkers names w (events ++ [e]) = s.startedWorkers names w events ++
      (s.startedWorker? names (s.afterAll names w events) e).toList := by
  induction events generalizing w with
  | nil => exact List.append_nil _
  | cons e' events ih =>
    rw [List.cons_append, startedWorkers, startedWorkers, ih, List.append_assoc]
    rfl

theorem latestStart?_concat (w : World σ) (events : List Event) (e : Event) (id : String) :
    s.latestStart? names w (events ++ [e]) id =
      ((s.startedWorker? names (s.afterAll names w events) e).filter
        fun p => p.workerId == some id).or (s.latestStart? names w events id) := by
  have hlast (o : Option StartedProcess) :
      (o.toList.filter fun p => p.workerId == some id).getLast? =
        o.filter fun p => p.workerId == some id := by
    cases o with
    | none => rfl
    | some p => cases hid : p.workerId == some id <;> simp [Option.filter, hid]
  rw [latestStart?, startedWorkers_concat, List.filter_append, List.getLast?_append, hlast]
  rfl

theorem launchCoordinator_fillsNone (w : World σ) :
    w.FillsNone (w.attempt s.launchCoordinator).2 := by
  intro id y hy
  rcases s.launchCoordinator_cases w with hsame | ⟨program, c, -, hsettles⟩
  · rw [hsame] at hy
    exact hy
  · have hplaced := hsettles.wanes.places.2 id y hy
    rw [Tracking.installCoordinator_worker?] at hplaced
    exact hplaced

theorem fillsNone_after (w : World σ) {e : Event} (he : ∀ launch, e ≠ .startWorker launch) :
    w.FillsNone (s.after names w e) :=
  s.after_within (R := FillsNone) names (fun hwanes => hwanes.places.2)
    (fun _ _ hforgets => hforgets.workers) s.launchCoordinator_fillsNone
    (fun _ _ _ _ _ _ hx => hx) w he

theorem install_ok {w v : World σ} {place : Option String} {x : Handle}
    {step : Tracking → Option Handle × Tracking} {fault : Handle → SupervisorFault} {u : Unit}
    (hstep : Tracking.Installs step place x)
    (h : w.attempt (install x step fault) = (.ok u, v)) (q : Option String) :
    v.tracking.at? q = if q = place then some x else w.tracking.at? q := by
  rw [attempt_install] at h
  rcases hstep w.tracking with ⟨y, htaken⟩ | ⟨hfree, -, hinstalled⟩
  · rw [htaken] at h
    cases h
  · rw [hfree] at h
    obtain ⟨-, rfl⟩ := Prod.mk.inj h
    exact hinstalled q

theorem launch_ok {w v : World σ} {role : Role} {id : Option String} {args : List String}
    {capacity : Option Nat} {step : Handle → Tracking → Option Handle × Tracking}
    (hstep : ∀ x, Tracking.Installs (step x) id x)
    {fault : Handle → SupervisorFault} {answer : Handle → LocatedProgram → StartedProcess}
    {p : StartedProcess}
    (h : w.attempt (do
      let program ← s.locate role
      let x ← s.spawn role id program args capacity
      install x (step x) fault
      awaitStart x
      Attempt.surely (s.recordStarted x)
      return answer x program) = (.ok p, v)) :
    ∃ x program, p = answer x program ∧ x.capacity = capacity ∧
      ∀ q y, v.tracking.at? q = some y → if q = id then y = x else w.tracking.at? q = some y := by
  obtain ⟨program, w₁, hlocate, h⟩ := World.attempt_bind_eq_ok_iff.1 h
  rw [attempt_locate] at hlocate
  obtain ⟨-, rfl⟩ := Prod.mk.inj hlocate
  obtain ⟨x, w₂, hspawn, h⟩ := World.attempt_bind_eq_ok_iff.1 h
  obtain ⟨u, w₃, hinstall, h⟩ := World.attempt_bind_eq_ok_iff.1 h
  obtain ⟨u', w₄, hawait, h⟩ := World.attempt_bind_eq_ok_iff.1 h
  obtain ⟨u'', w₅, hrecord, hanswer⟩ := World.attempt_bind_eq_ok_iff.1 h
  have hspawned : x.capacity = capacity ∧ w₂.tracking.at? = w.tracking.at? := by
    rw [attempt_spawn] at hspawn
    cases hchild : w.host.newChild program.path args (s.startDirectory role program.path) with
    | error cause =>
      rw [hchild] at hspawn
      cases hspawn
    | ok c =>
      rw [hchild] at hspawn
      obtain ⟨hx, rfl⟩ := Prod.mk.inj hspawn
      obtain rfl := Except.ok.inj hx
      refine ⟨rfl, funext fun q => ?_⟩
      cases q with
      | none => rfl
      | some k => rfl
  have hplaced := install_ok (hstep x) hinstall
  obtain ⟨hp, rfl⟩ := Prod.mk.inj hanswer
  have hwanes : w₃.Wanes w₅ := by
    have hawaits : w₃.Wanes _ := awaitStart_wanes x w₃
    have hrecords : w₄.Wanes (w₄.run (s.recordStarted x)).2 := s.record_wanes _ w₄
    rw [hawait] at hawaits
    obtain ⟨-, rfl⟩ := Prod.mk.inj hrecord
    exact hawaits.trans hrecords
  refine ⟨x, program, (Except.ok.inj hp).symm, hspawned.1, fun q y hy => ?_⟩
  have hafter := hwanes.at? hy
  rw [hplaced, hspawned.2] at hafter
  split
  · next hq =>
    rw [if_pos hq] at hafter
    exact (Option.some.inj hafter).symm
  · next hq =>
    rw [if_neg hq] at hafter
    exact hafter

theorem chooseWorkerId_wellFormed (hnames : names.NamesWorkers) {w v : World σ}
    {launch : WorkerLaunch} {id : String}
    (h : w.attempt (chooseWorkerId names launch) = (.ok id, v)) : Identifier.WellFormed id := by
  rw [chooseWorkerId] at h
  split at h
  · next asked _ =>
    obtain ⟨u, w₁, hcheck, hanswer⟩ := World.attempt_bind_eq_ok_iff.1 h
    obtain rfl := Except.ok.inj (congrArg Prod.fst hanswer)
    have hchecked : checked (Identifier.check "worker id" asked) = .ok u := congrArg Prod.fst hcheck
    rw [checked, Except.mapError_eq_ok_iff, Identifier.check_eq_ok_iff] at hchecked
    exact Identifier.fault?_eq_none_iff.1 hchecked
  · obtain rfl := Except.ok.inj (congrArg Prod.fst h)
    exact hnames.wellFormed w.madeUp

theorem checkWorker_wellFormed (hnames : names.NamesWorkers) {w v : World σ}
    {launch : WorkerLaunch} {plan : WorkerPlan}
    (h : w.attempt (s.checkWorker names launch) = (.ok plan, v)) :
    Identifier.WellFormed plan.workerId := by
  obtain ⟨capacity, w₁, -, h⟩ := World.attempt_bind_eq_ok_iff.1 h
  obtain ⟨id, w₂, hid, h⟩ := World.attempt_bind_eq_ok_iff.1 h
  have hwellFormed := chooseWorkerId_wellFormed names hnames hid
  rw [World.attempt_bind_ok (World.attempt_get w₂)] at h
  dsimp only at h
  split at h
  · split at h
    · obtain rfl := Except.ok.inj (congrArg Prod.fst h)
      exact hwellFormed
    · cases h
  · cases h

theorem launchWorker_ok {w v : World σ} {plan : WorkerPlan} {p : StartedProcess}
    (h : w.attempt (s.launchWorker plan) = (.ok p, v)) :
    p.workerId = some plan.workerId ∧ ∀ id y, v.tracking.worker? id = some y →
      if id = plan.workerId then p.pid = y.pid ∧ p.capacity = y.capacity
      else w.tracking.worker? id = some y := by
  have hlaunch : ∃ (x : Handle) (program : LocatedProgram), p = ⟨.worker, some plan.workerId, x.pid,
      program.path, program.source, some plan.capacity⟩ ∧ x.capacity = some plan.capacity ∧
        ∀ q y, v.tracking.at? q = some y →
          if q = some plan.workerId then y = x else w.tracking.at? q = some y := by
    rw [attempt_launchWorker] at h
    cases halive : (w.tracking.worker? plan.workerId).filter fun y => (w.run (isAlive y)).1 with
    | some y =>
      rw [halive] at h
      cases h
    | none =>
      rw [halive] at h
      exact s.launch_ok (Tracking.installs_worker plan.workerId) h
  obtain ⟨x, program, rfl, hcapacity, hplaces⟩ := hlaunch
  refine ⟨rfl, fun id y hy => ?_⟩
  have hplace := hplaces (some id) y hy
  split
  · next hid =>
    rw [hid, if_pos rfl] at hplace
    rw [hplace]
    exact ⟨rfl, hcapacity.symm⟩
  · next hid =>
    rw [if_neg fun hsame => hid (Option.some.inj hsame)] at hplace
    exact hplace

theorem of_recordingFailure_ok {α : Type} {a : Attempt SupervisorFault σ α} {role : Role}
    {id : Option String} {w v : World σ} {x : α}
    (h : w.attempt (s.recordingFailure role id a) = (.ok x, v)) : w.attempt a = (.ok x, v) := by
  rw [recordingFailure, World.attempt_onError] at h
  rcases hend : w.attempt a with ⟨e | x', w'⟩
  · rw [hend] at h
    cases h
  · rw [hend] at h
    exact h

/-- A start that succeeds has given its worker an id, and what is tracked under the id since then is
this worker. -/
theorem startWorker_ok (hnames : names.NamesWorkers) {w v : World σ} {launch : WorkerLaunch}
    {p : StartedProcess} (h : w.attempt (s.startWorker names launch) = (.ok p, v)) :
    ∃ id, p.workerId = some id ∧ Identifier.WellFormed id ∧
      ∀ k y, v.tracking.worker? k = some y →
        if k = id then p.pid = y.pid ∧ p.capacity = y.capacity
        else w.tracking.worker? k = some y := by
  have hstart := s.of_recordingFailure_ok h
  obtain ⟨plan, w₁, hchecked, hlaunch⟩ := World.attempt_bind_eq_ok_iff.1 hstart
  obtain ⟨⟨n, hn⟩, -⟩ := s.attempt_checkWorker w names launch
  rw [hchecked] at hn
  obtain rfl := hn
  obtain ⟨hid, hplaces⟩ := s.launchWorker_ok hlaunch
  exact ⟨plan.workerId, hid, s.checkWorker_wellFormed names hnames hchecked, hplaces⟩

theorem fillsNone_of_startedWorker? {w : World σ} (hw : w.Sound) {e : Event}
    (h : s.startedWorker? names w e = none) : w.FillsNone (s.after names w e) := by
  by_cases hstart : ∃ launch, e = .startWorker launch
  · obtain ⟨launch, rfl⟩ := hstart
    rw [startedWorker?] at h
    rw [after]
    rcases hend : w.attempt (s.startWorker names launch) with ⟨fault | p, v⟩
    · have hfailed := s.startWorker_leavesNothing names hw hend
      exact fun id x hx => hfailed.unplaced (some id) x hx
    · rw [hend] at h
      cases h
  · exact s.fillsNone_after names w fun launch he => hstart ⟨launch, he⟩

theorem after_of_startedWorker? (hnames : names.NamesWorkers) {w : World σ} {e : Event}
    {p : StartedProcess} (h : s.startedWorker? names w e = some p) :
    ∃ id, p.workerId = some id ∧ Identifier.WellFormed id ∧
      ∀ k y, (s.after names w e).tracking.worker? k = some y →
        if k = id then p.pid = y.pid ∧ p.capacity = y.capacity
        else w.tracking.worker? k = some y := by
  cases e with
  | startWorker launch =>
    rw [startedWorker?] at h
    rw [after]
    rcases hend : w.attempt (s.startWorker names launch) with ⟨fault | p', v⟩
    · rw [hend] at h
      cases h
    · rw [hend] at h
      obtain rfl := Option.some.inj h
      exact s.startWorker_ok names hnames hend
  | _ => cases h

/-- What is tracked under an id is the latest worker that was started under it. -/
def Tracks (start : World σ) (events : List Event) : Prop :=
  ∀ id x, (s.afterAll names start events).tracking.worker? id = some x →
    Identifier.WellFormed id ∧ ∃ p, s.latestStart? names start events id = some p ∧
      p.pid = x.pid ∧ p.capacity = x.capacity

theorem tracks_concat (hnames : names.NamesWorkers) {start : World σ} (hstart : start.Sound)
    {events : List Event} (h : s.Tracks names start events) (e : Event) :
    s.Tracks names start (events ++ [e]) := by
  have hafter : s.afterAll names start (events ++ [e]) =
      s.after names (s.afterAll names start events) e := List.foldl_append
  have hsound := s.sound_afterAll names hstart events
  intro id x hx
  rw [hafter] at hx
  rw [latestStart?_concat]
  cases hstarted : s.startedWorker? names (s.afterAll names start events) e with
  | none => exact h id x (s.fillsNone_of_startedWorker? names hsound hstarted id x hx)
  | some p =>
    obtain ⟨k, hid, hwellFormed, hplaces⟩ := s.after_of_startedWorker? names hnames hstarted
    have hplace := hplaces id x hx
    -- The new worker is the latest under its own id, and under no other.
    by_cases hk : id = k
    · rw [if_pos hk] at hplace
      subst hk
      refine ⟨hwellFormed, p, ?_, hplace⟩
      rw [Option.filter_some, hid, beq_self_eq_true]
      rfl
    · rw [if_neg hk] at hplace
      have hother : (p.workerId == some id) = false := by
        rw [hid]
        exact beq_eq_false_iff_ne.2 fun hsame => hk (Option.some.inj hsame).symm
      rw [Option.filter_some, hother]
      exact h id x hplace

theorem tracks_afterAll (hnames : names.NamesWorkers) {start : World σ} (hstart : start.Sound)
    (hnone : ∀ id, start.tracking.worker? id = none) (events : List Event) :
    s.Tracks names start events := by
  induction events using List.reverseRecOn with
  | nil =>
    intro id x hx
    cases (hnone id).symm.trans hx
  | append_singleton events e ih => exact s.tracks_concat names hnames hstart ih e

def statusAt (w : World σ) (x : Handle) : WorkerStatus :=
  ⟨x.id.getD "", x.pid, (w.run (isAlive x)).1, x.capacity, x.startedAt,
    (w.tracking.exit? x).bind Exit.code⟩

theorem run_mapM_statusOf (w : World σ) (xs : List Handle) :
    w.run (xs.mapM statusOf) = (xs.map (statusAt w), w) := by
  induction xs with
  | nil => rfl
  | cons x xs ih =>
    rw [List.mapM_cons, World.run_bind, World.run_bind]
    have hfirst : w.run (statusOf x) = (statusAt w x, w) := rfl
    rw [hfirst, ih]
    rfl

theorem ids_values {w : World σ} (hw : w.Sound) :
    (w.tracking.workers.values.map fun x => x.id.getD "") = w.tracking.workers.keys := by
  rw [Registry.values, Registry.keys, List.map_map]
  refine List.map_congr_left fun entry hentry => ?_
  have hplace := Registry.lookup_eq_some_of_mem w.tracking.workers.sorted hentry
  obtain ⟨-, hid⟩ := hw.workers entry.1 entry.2 hplace
  rw [Function.comp_apply, hid]
  rfl

theorem keys_ascending (t : Tracking) : t.workers.keys.Pairwise (· < ·) :=
  List.pairwise_map.2 t.workers.sorted

/-- Sorting by the ids in the handles leaves them as they are. -/
theorem workerHandles_eq {w : World σ} (hw : w.Sound) :
    w.tracking.workerHandles = w.tracking.workers.values := by
  have hascending := keys_ascending w.tracking
  rw [← ids_values hw, List.pairwise_map] at hascending
  exact List.mergeSort_of_pairwise (hascending.imp fun hlt => decide_eq_true (Std.le_of_lt hlt))

theorem running_statusSeen {w : World σ}
    (h : (∃ x, w.Manages x) ∨ w.host.listing (s.name .coordinator) ≠ []) :
    (s.statusSeen w).running = true := by
  rw [running_statusSeen_iff]
  by_cases hmanaged : ∃ x, w.Manages x
  · exact .inl hmanaged
  · obtain ⟨pid, hpid⟩ := List.exists_mem_of_ne_nil _ (h.resolve_left hmanaged)
    exact .inr ⟨pid, s.mem_others_iff.2 ⟨hpid, fun x hx => absurd ⟨x, hx⟩ hmanaged⟩⟩

theorem attempt_workerStatus {w : World σ} (hw : w.Sound) {pids : List Nat}
    (hlisted : w.host.find (s.name .coordinator) = .ok pids)
    (hrunning : (∃ x, w.Manages x) ∨ pids ≠ []) :
    w.attempt s.workerStatus = (.ok (w.tracking.workers.values.map (statusAt w)), w.tidied) := by
  obtain ⟨hlist, rfl⟩ := Host.find_eq_ok_iff.1 hlisted
  have hseen := s.running_statusSeen hrunning
  have hstatus : w.attempt s.coordinatorStatus = (.ok (s.statusSeen w), w.tidied) := by
    rw [attempt_coordinatorStatus, hlist, afterStatus, if_pos hseen]
  have hhandles := workerHandles_eq (hw.reaches w.reaches_tidied)
  rw [workerStatus, World.attempt_bind_ok hstatus, if_pos hseen,
    World.attempt_bind_ok (World.attempt_get w.tidied), World.attempt_surely, run_mapM_statusOf,
    hhandles]
  rfl

theorem attempt_workerStatus_of_unlisted {w : World σ} {e : String}
    (h : w.host.find (s.name .coordinator) = .error e) :
    w.attempt s.workerStatus = (.error (.notInspected e), w.tidied) := by
  have hstatus := s.attempt_coordinatorStatus w
  rw [Host.find_eq_error_iff.1 h] at hstatus
  exact World.attempt_bind_error hstatus _

theorem attempt_workerStatusById {w v : World σ} {id : String} {entries : List WorkerStatus}
    (hid : Identifier.WellFormed id) (h : w.attempt s.workerStatus = (.ok entries, v)) :
    w.attempt (s.workerStatusById id) = match entries.find? fun entry => entry.workerId == id with
      | some entry => (.ok entry, v)
      | none => (.error (.unknownWorker id), v) := by
  have hchecked : checked (Identifier.check "worker id" id) = .ok () := by
    rw [checked, Identifier.check_eq_ok_iff.2 (Identifier.fault?_eq_none_iff.2 hid)]
    rfl
  rw [workerStatusById, World.attempt_bind, World.attempt_check, hchecked]
  dsimp only
  rw [World.attempt_bind_ok h]
  cases entries.find? fun entry => entry.workerId == id with
  | some entry => rfl
  | none => rfl

theorem tells_statusAt {w : World σ} (hw : w.Sound) {x : Handle} (hx : x ∈ w.started)
    {p : StartedProcess} (hpid : p.pid = x.pid) (hcapacity : p.capacity = x.capacity) :
    (statusAt w x).Tells w p where
  pid := hpid.symm
  capacity := hcapacity.symm
  running hapart := by
    rw [hpid] at hapart ⊢
    change (!w.tracking.hasExited x && w.host.isAlive x.pid) = true ↔ w.Runs x
    rw [Bool.and_eq_true, Bool.not_eq_true', Host.isAlive_iff, hapart]
    constructor
    · rintro ⟨-, hruns | hother⟩
      · exact hruns
      · cases hother
    · intro hruns
      exact ⟨hruns.not_exited hw hx, .inl hruns⟩

theorem exists_tracked {w : World σ} (hw : w.Sound) {entry : WorkerStatus}
    (h : entry ∈ w.tracking.workers.values.map (statusAt w)) :
    ∃ x, w.tracking.worker? entry.workerId = some x ∧ entry = statusAt w x := by
  obtain ⟨x, hx, rfl⟩ := List.mem_map.1 h
  obtain ⟨id, hplace⟩ := Registry.exists_get?_of_mem_values hx
  have hid : (statusAt w x).workerId = id := by
    rw [statusAt, (hw.workers id x hplace).2]
    rfl
  rw [hid]
  exact ⟨x, hplace, rfl⟩

theorem find?_entry {entries : List WorkerStatus}
    (hascending : (entries.map WorkerStatus.workerId).Pairwise (· < ·)) {entry : WorkerStatus}
    (h : entry ∈ entries) :
    (entries.find? fun other => other.workerId == entry.workerId) = some entry := by
  have hdistinct : (entries.map WorkerStatus.workerId).Nodup := hascending.imp Std.ne_of_lt
  cases hfound : entries.find? fun other => other.workerId == entry.workerId with
  | none => exact absurd (beq_self_eq_true entry.workerId) (List.find?_eq_none.1 hfound entry h)
  | some other =>
    have hmatch := List.find?_some hfound
    have hsame : other.workerId = entry.workerId := beq_iff_eq.1 hmatch
    rw [List.inj_on_of_nodup_map hdistinct (List.mem_of_find?_eq_some hfound) h hsame]

/-- While a coordinator runs, the workers that are tracked are told of in the order of their ids.
There is one entry for each, about the latest start that succeeded under the id. What is told of one
by its id is this entry, if there is one. -/
theorem workerStatus_faithful (hnames : names.NamesWorkers) (coordinator : σ) (host : Host)
    (time : String) (events : List Event) :
    let start : World σ := .initial coordinator { host with children := [] } time
    let w := s.afterAll names start events
    (∀ id x, w.tracking.worker? id = some x → x.id = some id) ∧
    (∀ e, w.host.find (s.name .coordinator) = .error e →
      w.attempt s.workerStatus = (.error (.notInspected e), w.tidied)) ∧
    ∀ pids, w.host.find (s.name .coordinator) = .ok pids → (∃ x, w.Manages x) ∨ pids ≠ [] →
      ∃ entries, w.attempt s.workerStatus = (.ok entries, w.tidied) ∧
        (entries.map WorkerStatus.workerId).Pairwise (· < ·) ∧
        (∀ id, id ∈ entries.map WorkerStatus.workerId ↔ ∃ x, w.tracking.worker? id = some x) ∧
        (∀ entry ∈ entries,
          (∃ p, s.latestStart? names start events entry.workerId = some p ∧ entry.Tells w p) ∧
          w.attempt (s.workerStatusById entry.workerId) = (.ok entry, w.tidied)) ∧
        ∀ id, id ∉ entries.map WorkerStatus.workerId →
          (Identifier.WellFormed id →
            w.attempt (s.workerStatusById id) = (.error (.unknownWorker id), w.tidied)) ∧
          (¬ Identifier.WellFormed id →
            ∃ text, w.attempt (s.workerStatusById id) = (.error (.badArgument text), w)) := by
  intro start w
  have hstart : start.Sound := sound_initial coordinator _ time rfl
  have hsound : w.Sound := s.sound_afterAll names hstart events
  have htracks := s.tracks_afterAll names hnames hstart (fun _ => rfl) events
  refine ⟨fun id x hx => (hsound.workers id x hx).2,
    fun e he => s.attempt_workerStatus_of_unlisted he, fun pids hlisted hrunning => ?_⟩
  have hstatus := s.attempt_workerStatus hsound hlisted hrunning
  have hids : (w.tracking.workers.values.map (statusAt w)).map WorkerStatus.workerId =
      w.tracking.workers.keys := by
    rw [List.map_map]
    exact ids_values hsound
  have hascending := keys_ascending w.tracking
  rw [← hids] at hascending
  refine ⟨_, hstatus, hascending, fun id => ?_, fun entry hentry => ?_, fun id hid => ⟨?_, ?_⟩⟩
  · rw [hids]
    exact Tracking.mem_keys_iff
  · obtain ⟨x, hplace, hx⟩ := exists_tracked hsound hentry
    obtain ⟨hwellFormed, p, hlatest, hpid, hcapacity⟩ := htracks entry.workerId x hplace
    refine ⟨⟨p, hlatest, ?_⟩, ?_⟩
    · rw [hx]
      exact tells_statusAt hsound (hsound.workers _ x hplace).1 hpid hcapacity
    · rw [s.attempt_workerStatusById hwellFormed hstatus, find?_entry hascending hentry]
  · intro hwellFormed
    have hnone : (w.tracking.workers.values.map (statusAt w)).find?
        (fun entry => entry.workerId == id) = none := by
      refine List.find?_eq_none.2 fun entry hentry hsame => hid ?_
      exact List.mem_map.2 ⟨entry, hentry, beq_iff_eq.1 hsame⟩
    rw [s.attempt_workerStatusById hwellFormed hstatus, hnone]
  · intro hmalformed
    obtain ⟨fault, hfault⟩ := Identifier.exists_check_error hmalformed "worker id"
    refine ⟨fault.message, ?_⟩
    rw [workerStatusById, World.attempt_bind, World.attempt_check, hfault]
    rfl

/-- A worker dies, and another one is started under its id; one that came without an id runs on. -/
theorem workerStatus_faithful_again :
    let names : NameSource := ⟨fun _ => "", fun _ => "worker-00000000"⟩
    let launch (id : Option String) : WorkerLaunch := ⟨"/worker", "/input", none, id⟩
    let events : List Event := [.startCoordinator, .startWorker (launch (some "w")),
      .startWorker (launch none), .exit 7000002 ⟨some 1⟩, .notice 7000002,
      .startWorker (launch (some "w"))]
    let start : World Unit := .initial () (.furnished {}) ""
    let w := furnished.afterAll names start events
    w.tracking.workers.keys = ["w", "worker-00000000"] ∧
      ∃ entry, w.attempt (furnished.workerStatusById "w") = (.ok entry, w.tidied) ∧
        entry.pid = 7000004 ∧ entry.running = true ∧
        w.attempt (furnished.workerStatusById "v") = (.error (.unknownWorker "v"), w.tidied) := by
  intro names launch events start w
  have hnames : names.NamesWorkers := by
    refine fun _ => ⟨List.replicate 8 '0', rfl, fun c hc => .inl ?_, rfl⟩
    rw [List.eq_of_mem_replicate hc]
    decide
  have hends : w.host.find (furnished.name .coordinator) = .ok [] ∧
      w.coordinator?.isSome = true ∧ w.tracking.workers.keys = ["w", "worker-00000000"] := by
    decide +kernel
  obtain ⟨hlisted, hcoordinator, hkeys⟩ := hends
  obtain ⟨x, hx⟩ := Option.isSome_iff_exists.1 hcoordinator
  obtain ⟨-, -, htells⟩ :=
    furnished.workerStatus_faithful names hnames () (.furnished {}) "" events
  obtain ⟨entries, -, -, htracked, hentries, hothers⟩ :=
    htells [] hlisted (.inl ⟨x, World.coordinator?_eq_some_iff.1 hx⟩)
  have hids (id : String) : id ∈ entries.map WorkerStatus.workerId ↔
      id ∈ ["w", "worker-00000000"] := by
    rw [← hkeys, Tracking.mem_keys_iff]
    exact htracked id
  obtain ⟨entry, hentry, hid⟩ := List.mem_map.1 ((hids "w").2 (by decide))
  obtain ⟨⟨p, hlatest, hp⟩, hbyId⟩ := hentries entry hentry
  rw [hid] at hlatest hbyId
  have hpid : p.pid = 7000004 := by
    have hstarted : (furnished.latestStart? names start events "w").map StartedProcess.pid =
        some 7000004 := by decide +kernel
    exact Option.some.inj ((congrArg (Option.map StartedProcess.pid) hlatest).symm.trans hstarted)
  have hrunning := hp.running (by rw [hpid]; decide +kernel)
  rw [hpid] at hrunning
  have hunknown : "v" ∉ entries.map WorkerStatus.workerId := mt (hids "v").1 (by decide)
  exact ⟨hkeys, entry, hbyId, hp.pid.trans hpid, hrunning.2 (by decide +kernel),
    (hothers "v" hunknown).1 (Identifier.fault?_eq_none_iff.1 (by decide))⟩

end Supervisor

end CoordinatorGateway
