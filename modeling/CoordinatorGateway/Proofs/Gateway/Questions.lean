import CoordinatorGateway.Coordinator.Scripted
import CoordinatorGateway.Proofs.Gateway.Capacities

namespace CoordinatorGateway

variable {ε σ α : Type}

def Route.isCommand : Route → Bool
  | .launchProof | .startCoordinator | .stopCoordinator | .startWorker | .stopWorker _ => true
  | _ => false

/-- The request launches a proof, or starts or stops a process. -/
def Request.IsCommand (r : Request) : Prop :=
  r.method = "POST" ∧
    (r.target.path ∈ ["/api/proof/launch", "/api/coordinator/start", "/api/coordinator/stop",
        "/api/worker/start"] ∨
      "/api/worker/stop/".toList <+: r.target.path.toList)

theorem Route.isCommand_ofGet {path query : String} {route : Route}
    (h : ofGet? path query = some route) : route.isCommand = false := by
  unfold ofGet? at h
  split at h
  all_goals
    first
    | obtain rfl := Option.some.inj h
      rfl
    | obtain ⟨id, -, rfl⟩ := Option.map_eq_some_iff.1 h
      rfl

theorem Route.prefix_of_after {start path rest : String} (h : after? start path = some rest) :
    start.toList <+: path.toList := by
  obtain ⟨cs, hcs, -⟩ := Option.map_eq_some_iff.1 h
  rw [Text.stripStart?] at hcs
  split at hcs
  · next hstart => exact List.isPrefixOf_iff_prefix.1 hstart
  · cases hcs

theorem Route.path_of_ofPost {path : String} {route : Route} (h : ofPost? path = some route)
    (hcommand : route.isCommand = true) :
    path ∈ ["/api/proof/launch", "/api/coordinator/start", "/api/coordinator/stop",
        "/api/worker/start"] ∨ "/api/worker/stop/".toList <+: path.toList := by
  unfold ofPost? at h
  split at h
  case h_5 =>
    rcases Option.or_eq_some_iff.1 h with hcancel | ⟨-, hstop⟩
    · obtain ⟨id, -, rfl⟩ := Option.map_eq_some_iff.1 hcancel
      cases hcommand
    · obtain ⟨id, hid, -⟩ := Option.map_eq_some_iff.1 hstop
      exact .inr (prefix_of_after hid)
  all_goals exact .inl (by decide)

theorem Request.isCommand_of_route {r : Request} {route : Route} (h : r.route? = some route)
    (hcommand : route.isCommand = true) : r.IsCommand := by
  unfold route? Route.find? at h
  split at h
  · rw [Route.isCommand_ofGet h] at hcommand
    cases hcommand
  · next hmethod => exact ⟨hmethod, Route.path_of_ofPost h hcommand⟩
  · cases h

/-- From one world to the other the coordinator has been asked, for anything but a launch, and
handles have been dropped. -/
structure World.Spares (s : Supervisor) (w w' : World σ) : Prop where
  host : w'.host = w.host
  started : w'.started = w.started
  store : w'.store = w.store
  clocks : w'.now = w.now ∧ w'.time = w.time
  calls : ∃ calls : List CoordinatorCall,
    w'.trace = w.trace ++ calls.map .call ∧ ∀ order, .launch order ∉ calls
  ends : w'.tracking.exits = w.tracking.exits ∧ w'.tracking.generation = w.tracking.generation
  coordinator : w'.tracking.coordinator = w.tracking.coordinator ∨
    w'.tracking.coordinator = none ∧
      ∀ x, w.tracking.coordinator = some x → (w.run (World.isAlive x)).1 = false
  workers : w'.tracking.workers = w.tracking.workers ∨
    w'.tracking.workers = .empty ∧ w.coordinator? = none ∧
      w.host.find (s.name .coordinator) = .ok []

namespace World.Spares

variable {s : Supervisor} {w w' w'' : World σ}

theorem isAlive_eq (h : Spares s w w') (x : Handle) :
    (w'.run (isAlive x)).1 = (w.run (isAlive x)).1 := by
  simp only [run_isAlive, Tracking.hasExited, Tracking.exit?, h.ends.1, h.host]

theorem coordinator?_eq (h : Spares s w w') : w'.coordinator? = w.coordinator? := by
  have hrun : (fun x => !w'.tracking.hasExited x && w'.host.isAlive x.pid) =
      fun x => !w.tracking.hasExited x && w.host.isAlive x.pid := funext h.isAlive_eq
  rw [coordinator?, coordinator?, hrun]
  rcases h.coordinator with hsame | ⟨hnone, hdead⟩
  · rw [hsame]
  · rw [hnone, Option.filter_none]
    cases hx : w.tracking.coordinator with
    | none => rfl
    | some x =>
      have hfalse : (!w.tracking.hasExited x && w.host.isAlive x.pid) = false := hdead x hx
      rw [Option.filter_some, hfalse]
      rfl

theorem refl (s : Supervisor) (w : World σ) : Spares s w w :=
  ⟨rfl, rfl, rfl, ⟨rfl, rfl⟩, ⟨[], (List.append_nil _).symm, fun _ => List.not_mem_nil⟩,
    ⟨rfl, rfl⟩, .inl rfl, .inl rfl⟩

theorem trans (h : Spares s w w') (h' : Spares s w' w'') : Spares s w w'' := by
  obtain ⟨calls, htrace, hcalls⟩ := h.calls
  obtain ⟨later, htrace', hlater⟩ := h'.calls
  refine ⟨h'.host.trans h.host, h'.started.trans h.started, h'.store.trans h.store,
    ⟨h'.clocks.1.trans h.clocks.1, h'.clocks.2.trans h.clocks.2⟩, ⟨calls ++ later, ?_, ?_⟩,
    ⟨h'.ends.1.trans h.ends.1, h'.ends.2.trans h.ends.2⟩, ?_, ?_⟩
  · rw [htrace', htrace, List.map_append, List.append_assoc]
  · intro order hmem
    exact (List.mem_append.1 hmem).elim (hcalls order) (hlater order)
  · rcases h'.coordinator with hsame | ⟨hnone, hdead⟩
    · rw [hsame]
      exact h.coordinator
    · refine .inr ⟨hnone, fun x hx => ?_⟩
      rcases h.coordinator with hsame | ⟨-, hdead'⟩
      · rw [← h.isAlive_eq]
        exact hdead x (hsame.trans hx)
      · exact hdead' x hx
  · rcases h'.workers with hsame | ⟨hempty, hnone, hfind⟩
    · rw [hsame]
      exact h.workers
    · rw [h.coordinator?_eq] at hnone
      rw [h.host] at hfind
      exact .inr ⟨hempty, hnone, hfind⟩

instance : IsPreorder (World σ) (Spares s) where
  refl := refl s
  trans _ _ _ := trans

theorem makeName (s : Supervisor) (w : World σ) (n : Nat) : Spares s w { w with madeUp := n } :=
  ⟨rfl, rfl, rfl, ⟨rfl, rfl⟩, ⟨[], (List.append_nil _).symm, fun _ => List.not_mem_nil⟩,
    ⟨rfl, rfl⟩, .inl rfl, .inl rfl⟩

theorem ask (s : Supervisor) (c : Coordinator σ) : Gateway.Asks c (Spares s) := by
  refine Gateway.Asks.of_any (fun w call state hcall => ?_) c
  refine ⟨rfl, rfl, rfl, ⟨rfl, rfl⟩, ⟨[call], rfl, fun order hmem => ?_⟩, ⟨rfl, rfl⟩, .inl rfl,
    .inl rfl⟩
  exact hcall order (List.mem_singleton.1 hmem).symm

theorem tidied (s : Supervisor) (w : World σ) : Spares s w w.tidied := by
  refine ⟨rfl, rfl, rfl, ⟨rfl, rfl⟩, ⟨[], (List.append_nil _).symm, fun _ => List.not_mem_nil⟩,
    ⟨rfl, rfl⟩, ?_, .inl rfl⟩
  cases hx : w.tracking.coordinator with
  | none => exact .inl (World.tidied_of_none hx).1
  | some x =>
    cases halive : (w.run (isAlive x)).1 with
    | true => exact .inl (World.tidied_of_alive hx halive).1
    | false =>
      refine .inr ⟨(World.tidied_of_dead hx halive).1, fun y hy => ?_⟩
      obtain rfl := Option.some.inj hy
      exact halive

theorem dropWorkers (hnone : w.coordinator? = none)
    (hfind : w.host.find (s.name .coordinator) = .ok []) :
    Spares s w { w with tracking := w.tracking.clearWorkers.2 } :=
  ⟨rfl, rfl, rfl, ⟨rfl, rfl⟩, ⟨[], (List.append_nil _).symm, fun _ => List.not_mem_nil⟩,
    ⟨rfl, rfl⟩, .inl rfl, .inr ⟨rfl, hnone, hfind⟩⟩

end World.Spares

def World.StaysSound (w w' : World σ) : Prop := w.Sound → w'.Sound

instance : IsPreorder (World σ) World.StaysSound where
  refl _ := id
  trans _ _ _ h h' := h' ∘ h

theorem Gateway.sound_meet (g : Gateway σ) {w : World σ} (h : w.Sound) (e : Event) :
    (g.meet w e).2.Sound := by
  cases e with
  | request r =>
    have hkeeps : (g.handle r).Within World.StaysSound := by
      refine handle_within (fun w n h => h.congr rfl rfl rfl)
        (.of_any (fun w call s _ h => h.congr rfl rfl rfl) _)
        (fun e _ w h => g.supervisor.sound_after g.names h e) fun _ client => ?_
      apply Launcher.launchBody_within
      · exact fun enabled e w h => h.reaches (Act.Wanes.record enabled e w).reaches
      · exact fun w store h => h.congr rfl rfl rfl
      · exact fun w call s h => h.congr rfl rfl rfl
    exact hkeeps w h
  | processes e => exact g.supervisor.sound_after g.names h e
  | clock now => exact h.congr rfl rfl rfl
  | sweep => exact h.congr rfl rfl rfl

theorem Gateway.sound_run (g : Gateway σ) {w : World σ} (h : w.Sound) (events : List Event) :
    (g.run w events).2.Sound := by
  induction events generalizing w with
  | nil => exact h
  | cons e events ih => exact ih (g.sound_meet h e)

theorem World.Sound.ended_of_not_alive {w : World σ} (h : w.Sound) {x : Handle}
    (hx : x ∈ w.started) (hdead : (w.run (World.isAlive x)).1 = false) {c : Child}
    (hc : c ∈ w.host.children) (hpid : c.pid = x.pid) : c.isRunning = false := by
  rw [World.run_isAlive, Bool.and_eq_false_iff, Bool.not_eq_false'] at hdead
  rcases hdead with hexited | hgone
  · exact h.ended_of_hasExited hx hexited hc hpid
  · rw [Host.isAlive, Bool.or_eq_false_iff, List.any_eq_false] at hgone
    have hrests := hgone.1 c hc
    simpa [hpid] using hrests

namespace Supervisor

variable (s : Supervisor)

/-- Looking for a coordinator tidies up, and drops the workers where there is none. -/
theorem coordinatorStatus_spares :
    Attempt.Within (s.coordinatorStatus : Attempt SupervisorFault σ CoordinatorStatus)
      (World.Spares s) := by
  intro w
  rw [coordinatorStatus, World.attempt_bind, World.attempt_surely, run_liveCoordinator]
  dsimp only
  rw [World.attempt_bind, attempt_otherCoordinators]
  have htidied := World.Spares.tidied s w
  cases hfind : w.tidied.host.find (s.name .coordinator) with
  | error e => exact htidied
  | ok pids =>
    cases hx : w.coordinator? with
    | some x => exact htidied
    | none =>
      cases pids with
      | cons pid pids => exact htidied
      | nil =>
        have hnone : w.tidied.coordinator? = none := htidied.coordinator?_eq.trans hx
        exact htidied.trans (.dropWorkers hnone hfind)

theorem mapM_statusOf_spares (hs : List Handle) :
    Act.Within (hs.mapM statusOf : Act σ (List WorkerStatus)) (World.Spares s) := by
  induction hs with
  | nil => exact .pure _
  | cons h hs ih =>
    rw [List.mapM_cons]
    refine Act.Within.bind (fun w => .refl s w) ?_
    intro status
    apply Act.Within.bind ih
    intro statuses
    exact .pure _

theorem workerStatus_spares :
    Attempt.Within (s.workerStatus : Attempt SupervisorFault σ (List WorkerStatus))
      (World.Spares s) := by
  apply Attempt.Within.bind s.coordinatorStatus_spares
  intro status
  apply Attempt.Within.ite
  · apply Attempt.Within.get
    intro w
    exact .surely (s.mapM_statusOf_spares _)
  · exact .pure _

theorem workerStatusById_spares (id : String) :
    Attempt.Within (s.workerStatusById id : Attempt SupervisorFault σ WorkerStatus)
      (World.Spares s) := by
  refine Attempt.Within.bind (.check _) ?_
  intro u
  apply Attempt.Within.bind s.workerStatus_spares
  intro statuses
  split
  · exact .pure _
  · exact .throw _

end Supervisor

namespace Gateway

variable (g : Gateway σ)

theorem handle_spares {r : Request} (h : ¬r.IsCommand) :
    (g.handle r).Within (World.Spares g.supervisor) := by
  refine handle_within (World.Spares.makeName _) (World.Spares.ask _ _) (fun e he w => ?_)
    fun hroute => ?_
  · rw [Request.supervisorEvent?, Option.bind_eq_some_iff] at he
    obtain ⟨route, hroute, he⟩ := he
    have hasks : ¬route.isCommand = true := fun hcommand =>
      h (Request.isCommand_of_route hroute hcommand)
    cases route with
    | coordinatorProcess =>
      obtain rfl := Option.some.inj he
      exact g.supervisor.coordinatorStatus_spares w
    | workerProcesses id =>
      cases id with
      | none =>
        obtain rfl := Option.some.inj he
        exact g.supervisor.workerStatus_spares w
      | some id =>
        obtain rfl := Option.some.inj he
        exact g.supervisor.workerStatusById_spares id w
    | startCoordinator | stopCoordinator | startWorker | stopWorker => exact absurd rfl hasks
    | _ => cases he
  · exact absurd (Request.isCommand_of_route hroute rfl) h

def unroutedResponse (r : Request) : Response :=
  if r.method = "OPTIONS" then .empty 204
  else (Failure.notFound ("No route for " ++ r.target.path)).response

theorem run_respond_unrouted (w : World σ) (client : String) {r : Request}
    (h : r.method = "OPTIONS" ∨ r.route? = none) :
    w.run (g.respond client r) = (unroutedResponse r, w) := by
  rw [respond, unroutedResponse]
  by_cases hasks : r.method = "OPTIONS"
  · rw [if_pos hasks, if_pos hasks]
    rfl
  · have hroute : r.route? = none := h.resolve_left hasks
    rw [if_neg hasks, if_neg hasks, attempt, ← Request.route?, hroute]
    rfl

theorem run_requestId_world (w : World σ) (h : Headers) :
    (w.run (g.requestId h)).2 = w ∨
      (w.run (g.requestId h)).2 = { w with madeUp := w.madeUp + 1 } := by
  rw [requestId]
  split
  · exact .inl rfl
  · exact .inr rfl

theorem run_handle (w : World σ) (r : Request) :
    w.run (g.handle r) =
      (((w.run (g.requestId r.headers)).2.run
        (g.respond (clientIdentity r.headers r.peer g.trustProxy) r)).map
          (decorate (w.run (g.requestId r.headers)).1 (g.allowedOrigin? r.headers)) id) := rfl

/-- What comes of a request that is no command, in any world; in a sound one, the process of a
handle that is dropped has ended. Of a request that only asks what is allowed nothing comes at all,
whatever its path, nor of one without a route. -/
theorem handle_question (w : World σ) (r : Request) :
    let w' := (w.run (g.handle r)).2
    (¬r.IsCommand →
      w.Spares g.supervisor w' ∧
        (w.Sound → ∀ x, w.tracking.coordinator = some x → w'.tracking.coordinator ≠ some x →
          ∀ c ∈ w.host.children, c.pid = x.pid → c.isRunning = false)) ∧
    (r.method = "OPTIONS" ∨ r.route? = none →
      (w' = w ∨ w' = { w with madeUp := w.madeUp + 1 }) ∧
        ∃ id, (w.run (g.handle r)).1 =
          decorate id (g.allowedOrigin? r.headers) (unroutedResponse r)) := by
  intro w'
  refine ⟨fun h => ?_, fun h => ?_⟩
  · have hspares := g.handle_spares h w
    refine ⟨hspares, fun hsound x hx hdropped c hc hpid => ?_⟩
    rcases hspares.coordinator with hsame | ⟨-, hdead⟩
    · exact absurd (hsame.trans hx) hdropped
    · exact hsound.ended_of_not_alive (hsound.coordinator x hx).1 (hdead x hx) hc hpid
  · have hrun := g.run_handle w r
    rw [g.run_respond_unrouted _ _ h] at hrun
    have hworld : w' = (w.run (g.requestId r.headers)).2 := congrArg Prod.snd hrun
    rw [hworld]
    exact ⟨g.run_requestId_world w r.headers, _, congrArg Prod.fst hrun⟩

/-- The coordinator has ended by itself, and the question for it drops its handle. Asking what is
allowed where proofs are launched does nothing. -/
theorem handle_question_ended :
    let g : Gateway Script :=
      { coordinator := Script.coordinator ""
        launcher := .ofSettings {}
        supervisor := .furnished
        corsOrigins := []
        trustProxy := false
        names := .blank }
    let w := (g.run (.initial {} (.furnished {}) "")
      [.processes .startCoordinator, .processes (.exit 7000001 ⟨some 0⟩)]).2
    let request (method path : String) : Request :=
      ⟨method, ⟨none, "", path, none⟩, [("X-Request-Id", "a")], ⟨[], false⟩, .v4 [127, 0, 0, 1]⟩
    let looked := (w.run (g.handle (request "GET" "/api/coordinator/process-status"))).2
    w.Spares g.supervisor looked ∧ w.tracking.coordinator.map Handle.pid = some 7000001 ∧
      looked.tracking.coordinator = none ∧
      (∀ c ∈ w.host.children, c.pid = 7000001 → c.isRunning = false) ∧
      (w.run (g.handle (request "OPTIONS" "/api/proof/launch"))).2.madeUp = w.madeUp := by
  intro g w request looked
  obtain ⟨hlooked, -⟩ := g.handle_question w (request "GET" "/api/coordinator/process-status")
  obtain ⟨hspares, hended⟩ := hlooked fun h => absurd h.1 (by decide)
  have hsound : w.Sound := g.sound_run (Supervisor.sound_initial {} (.furnished {}) "" rfl) _
  have htracked : w.tracking.coordinator.map Handle.pid = some 7000001 := by decide +kernel
  have hdropped : looked.tracking.coordinator = none := by decide +kernel
  obtain ⟨x, hx, hpid⟩ := Option.map_eq_some_iff.1 htracked
  refine ⟨hspares, htracked, hdropped, fun c hc hcpid => ?_, ?_⟩
  · refine hended hsound x hx (fun hstays => ?_) c hc (hcpid.trans hpid.symm)
    rw [hdropped] at hstays
    cases hstays
  · obtain ⟨-, hasked⟩ := g.handle_question w (request "OPTIONS" "/api/proof/launch")
    obtain ⟨hsame | hnamed, -⟩ := hasked (.inl rfl)
    · rw [hsame]
    · exact absurd (congrArg World.madeUp hnamed) (by decide +kernel)

/-- Any number of questions leave alone what one does. -/
theorem run_spares {requests : List Request} (h : ∀ r ∈ requests, ¬r.IsCommand) (w : World σ) :
    w.Spares g.supervisor (g.run w (requests.map .request)).2 := by
  induction requests generalizing w with
  | nil => exact .refl _ w
  | cons r requests ih =>
    have hfirst := g.handle_spares (h r List.mem_cons_self) w
    exact hfirst.trans (ih (fun q hq => h q (List.mem_cons_of_mem r hq)) _)

end Gateway

end CoordinatorGateway
