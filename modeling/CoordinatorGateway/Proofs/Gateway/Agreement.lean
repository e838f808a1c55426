import CoordinatorGateway.Proofs.Agreement
import CoordinatorGateway.Proofs.Gateway.Sessions

namespace CoordinatorGateway.Gateway

variable {σ α : Type}

def refitted (g : Gateway σ) (l : Launcher) (s : Supervisor) : Gateway σ :=
  { g with launcher := l, supervisor := s }

/-- In related worlds the parts of both gateways agree, and what happens between requests keeps the
worlds related. -/
structure Matches (Q : World σ → World σ → Prop) (g : Gateway σ) (l : Launcher) (s : Supervisor) :
    Prop where
  makeName : Act.Agree Q (World.makeName g.names.request) (World.makeName g.names.request)
  inFlight : Act.Agree Q g.inFlight g.inFlight
  info : Attempt.Agree Q (World.ask .info g.coordinator.info) (World.ask .info g.coordinator.info)
  load : Attempt.Agree Q (World.ask .load g.coordinator.load) (World.ask .load g.coordinator.load)
  jobs : ∀ activeOnly,
    Attempt.Agree Q (World.ask (.jobs activeOnly) (g.coordinator.jobs activeOnly))
      (World.ask (.jobs activeOnly) (g.coordinator.jobs activeOnly))
  job : ∀ id, Attempt.Agree Q (World.ask (.job id) (g.coordinator.job id))
    (World.ask (.job id) (g.coordinator.job id))
  workers : Attempt.Agree Q (World.ask .workers g.coordinator.workers)
    (World.ask .workers g.coordinator.workers)
  launch : ∀ client (body : Body),
    Attempt.Agree Q (g.launcher.launchBody client body.read g.coordinator)
      (l.launchBody client body.read g.coordinator)
  startCoordinator : Attempt.Agree Q g.supervisor.startCoordinator s.startCoordinator
  stopCoordinator : Attempt.Agree Q g.supervisor.stopCoordinator s.stopCoordinator
  coordinatorStatus : Attempt.Agree Q g.supervisor.coordinatorStatus s.coordinatorStatus
  startWorker : ∀ launch, Attempt.Agree Q (g.supervisor.startWorker g.names launch)
    (s.startWorker g.names launch)
  stopWorker : ∀ id, Attempt.Agree Q (g.supervisor.stopWorker id) (s.stopWorker id)
  workerStatus : Attempt.Agree Q g.supervisor.workerStatus s.workerStatus
  workerStatusById : ∀ id, Attempt.Agree Q (g.supervisor.workerStatusById id)
    (s.workerStatusById id)
  after : ∀ e w v, Q w v → Q (g.supervisor.after g.names w e) (s.after g.names v e)
  clock : ∀ now w v, Q w v → Q { w with now := now } { v with now := now }
  sweep : ∀ w v, Q w v →
    Q { w with store := w.store.sweep w.now } { v with store := v.store.sweep v.now }

variable {Q : World σ → World σ → Prop} {g : Gateway σ} {l : Launcher} {s : Supervisor}

theorem health_agree (h : g.Matches Q l s) : Act.Agree Q g.health (g.refitted l s).health := by
  apply Act.Agree.bind h.info
  intro answer
  cases answer with
  | error e => exact .pure _
  | ok info => exact .pure _

theorem coordinatorInfo_agree (h : g.Matches Q l s) :
    Act.Agree Q g.coordinatorInfo (g.refitted l s).coordinatorInfo := by
  apply Act.Agree.bind h.info
  intro answer
  cases answer with
  | error e =>
    apply Act.Agree.bind h.inFlight
    intro calls
    exact .pure _
  | ok info =>
    apply Act.Agree.bind h.load
    intro load
    apply Act.Agree.bind h.inFlight
    intro calls
    exact .pure _

theorem job_agree (h : g.Matches Q l s) (raw : String) :
    (g.job raw).Agree Q ((g.refitted l s).job raw) := by
  refine Attempt.Agree.bind (.check _) ?_
  intro id
  apply Attempt.Agree.bind (h.job id)
  intro job
  cases job with
  | none => exact .throw _
  | some job => exact .pure _

theorem shown_agree {a other : Attempt Failure σ α} (h : a.Agree Q other) (shown : α → Response) :
    Attempt.Agree Q (do return shown (← a)) (do return shown (← other)) := by
  apply Attempt.Agree.bind h
  intro x
  exact .pure _

theorem supervise_agree {a other : Attempt SupervisorFault σ α} (h : a.Agree Q other)
    (shown : α → Response) :
    Attempt.Agree Q (do return shown (← supervise a)) (do return shown (← supervise other)) :=
  shown_agree (.mapError h _) shown

theorem follow_agree (h : g.Matches Q l s) (client : String) (body : Body) (route : Route) :
    (g.follow client body route).Agree Q ((g.refitted l s).follow client body route) := by
  cases route with
  | health => exact .surely (health_agree h)
  | version => exact .pure _
  | coordinatorInfo => exact .surely (coordinatorInfo_agree h)
  | load => exact shown_agree h.load _
  | workers => exact shown_agree h.workers _
  | jobs activeOnly => exact shown_agree (h.jobs activeOnly) _
  | job id => exact job_agree h id
  | cancelJob id =>
    refine Attempt.Agree.bind (.bind (.check _) fun _ => .pure _) ?_
    intro u
    exact .throw _
  | launchProof => exact shown_agree (h.launch client body) _
  | startCoordinator => exact supervise_agree h.startCoordinator _
  | stopCoordinator => exact supervise_agree h.stopCoordinator _
  | coordinatorProcess => exact supervise_agree h.coordinatorStatus _
  | startWorker =>
    refine Attempt.Agree.bind (.check _) ?_
    intro launch
    exact supervise_agree (h.startWorker launch) _
  | stopWorker raw =>
    refine Attempt.Agree.bind (.check _) ?_
    intro id
    exact supervise_agree (h.stopWorker id) _
  | workerProcesses id =>
    cases id with
    | none => exact supervise_agree h.workerStatus _
    | some id => exact supervise_agree (h.workerStatusById id) _

theorem handle_agree (h : g.Matches Q l s) (r : Request) :
    (g.handle r).Agree Q ((g.refitted l s).handle r) := by
  have hid : (g.requestId r.headers).Agree Q ((g.refitted l s).requestId r.headers) := by
    rw [requestId, requestId]
    split
    · exact .pure _
    · exact h.makeName
  have hattempt (client : String) :
      (g.attempt client r).Agree Q ((g.refitted l s).attempt client r) := by
    rw [attempt, attempt]
    split
    · exact follow_agree h client r.body _
    · exact .throw _
  have hrespond (client : String) :
      (g.respond client r).Agree Q ((g.refitted l s).respond client r) := by
    rw [respond, respond]
    split
    · exact .pure _
    · apply Act.Agree.bind (hattempt client)
      intro result
      cases result with
      | error e => exact .pure _
      | ok response => exact .pure _
  apply Act.Agree.bind hid
  intro id
  apply Act.Agree.bind (hrespond _)
  intro response
  exact .pure _

theorem meet_agree (h : g.Matches Q l s) (e : Event) {w v : World σ} (hw : Q w v) :
    World.Agree Q (g.meet w e) ((g.refitted l s).meet v e) := by
  cases e with
  | request r =>
    obtain ⟨hresponse, hworlds⟩ := handle_agree h r w v hw
    exact ⟨congrArg some hresponse, hworlds⟩
  | processes e => exact ⟨rfl, h.after e w v hw⟩
  | clock now => exact ⟨rfl, h.clock now w v hw⟩
  | sweep => exact ⟨rfl, h.sweep w v hw⟩

theorem run_agree (h : g.Matches Q l s) (events : List Event) {w v : World σ} (hw : Q w v) :
    World.Agree Q (g.run w events) ((g.refitted l s).run v events) := by
  induction events generalizing w v with
  | nil => exact ⟨rfl, hw⟩
  | cons e events ih =>
    obtain ⟨hresponse, hworlds⟩ := meet_agree h e hw
    obtain ⟨hresponses, hafter⟩ := ih hworlds
    refine ⟨?_, hafter⟩
    simp only [run, hresponse, hresponses]

end CoordinatorGateway.Gateway
