import CoordinatorGateway.Gateway.Handle
import CoordinatorGateway.Proofs.Supervisor.Runs

namespace CoordinatorGateway

variable {σ : Type}

def Route.supervisorEvent? (body : Body) : Route → Option Supervisor.Event
  | .startCoordinator => some .startCoordinator
  | .stopCoordinator => some .stopCoordinator
  | .coordinatorProcess => some .coordinatorStatus
  | .startWorker =>
    match (do (← WorkerRequest.read (← body.read)).launch : Except Failure WorkerLaunch) with
    | .ok launch => some (.startWorker launch)
    | .error _ => none
  | .stopWorker raw =>
    match pathParameter raw with
    | .ok id => some (.stopWorker id)
    | .error _ => none
  | .workerProcesses (some id) => some (.workerStatusById id)
  | .workerProcesses none => some .workerStatus
  | _ => none

def Request.route? (r : Request) : Option Route :=
  Route.find? r.method r.target.path (r.target.query.getD "")

def Request.supervisorEvent? (r : Request) : Option Supervisor.Event :=
  r.route?.bind (Route.supervisorEvent? r.body)

namespace Gateway

inductive Event where
  | request (r : Request)
  /-- What happens to the processes otherwise. -/
  | processes (e : Supervisor.Event)
  /-- The clock of the rate limiter shows the time `now`. -/
  | clock (now : Nat)
  /-- The windows that are over are swept out. -/
  | sweep

def Event.supervisorEvent? : Event → Option Supervisor.Event
  | .request r => r.supervisorEvent?
  | .processes e => some e
  | _ => none

def meet (g : Gateway σ) (w : World σ) : Event → Option Response × World σ
  | .request r =>
    let (response, w) := w.run (g.handle r)
    (some response, w)
  | .processes e => (none, g.supervisor.after g.names w e)
  | .clock now => (none, { w with now })
  | .sweep => (none, { w with store := w.store.sweep w.now })

/-- The answers to the requests, and the world after all events. -/
def run (g : Gateway σ) (w : World σ) : List Event → List Response × World σ
  | [] => ([], w)
  | e :: events =>
    let (response, w) := g.meet w e
    let (responses, w) := g.run w events
    (response.toList ++ responses, w)

variable (g : Gateway σ)

theorem run_append (w : World σ) (events later : List Event) :
    (g.run w (events ++ later)).2 = (g.run (g.run w events).2 later).2 := by
  induction events generalizing w with
  | nil => rfl
  | cons e events ih => exact ih (g.meet w e).2

theorem run_concat (w : World σ) (events : List Event) (e : Event) :
    (g.run w (events ++ [e])).2 = (g.meet (g.run w events).2 e).2 :=
  g.run_append w events [e]

theorem run_respond_routed (w : World σ) (client : String) {r : Request} {route : Route}
    (hroute : r.route? = some route) :
    w.run (g.respond client r) = match w.attempt (g.follow client r.body route) with
      | (.ok response, w') => (response, w')
      | (.error f, w') => (f.response, w') := by
  have hasks : r.method ≠ "OPTIONS" := by
    intro h
    rw [Request.route?, h] at hroute
    cases hroute
  rw [respond, if_neg hasks, World.run_bind, World.run_attempt, attempt, ← Request.route?, hroute]
  dsimp only
  obtain ⟨f | response, w'⟩ := w.attempt (g.follow client r.body route)
  · rfl
  · rfl

theorem run_respond_world (w : World σ) (client : String) {r : Request} {route : Route}
    (hroute : r.route? = some route) :
    (w.run (g.respond client r)).2 = (w.attempt (g.follow client r.body route)).2 := by
  rw [g.run_respond_routed w client hroute]
  obtain ⟨f | response, w'⟩ := w.attempt (g.follow client r.body route)
  · rfl
  · rfl

/-- The relation holds where the coordinator is asked for anything but a launch. -/
structure Asks (c : Coordinator σ) (R : World σ → World σ → Prop) : Prop where
  info : Attempt.Within (World.ask .info c.info) R
  load : Attempt.Within (World.ask .load c.load) R
  jobs : ∀ activeOnly, Attempt.Within (World.ask (.jobs activeOnly) (c.jobs activeOnly)) R
  job : ∀ id, Attempt.Within (World.ask (.job id) (c.job id)) R
  workers : Attempt.Within (World.ask .workers c.workers) R

theorem Asks.of_any {R : World σ → World σ → Prop}
    (h : ∀ (w : World σ) (call : CoordinatorCall) (s : σ), (∀ order, call ≠ .launch order) →
      R w { w with coordinator := s, trace := w.trace ++ [.call call] }) (c : Coordinator σ) :
    Asks c R where
  info := fun w => h w .info (c.info w.coordinator).2 fun _ => CoordinatorCall.noConfusion
  load := fun w => h w .load (c.load w.coordinator).2 fun _ => CoordinatorCall.noConfusion
  jobs activeOnly := fun w =>
    h w (.jobs activeOnly) (c.jobs activeOnly w.coordinator).2 fun _ => CoordinatorCall.noConfusion
  job id := fun w => h w (.job id) (c.job id w.coordinator).2 fun _ => CoordinatorCall.noConfusion
  workers := fun w => h w .workers (c.workers w.coordinator).2 fun _ => CoordinatorCall.noConfusion

section Within

variable {R : World σ → World σ → Prop} [IsPreorder (World σ) R] {g}

theorem inFlight_within : Act.Within g.inFlight R := .get fun _ => .pure _

theorem health_within (hask : Asks g.coordinator R) : Act.Within g.health R := by
  apply Act.Within.bind hask.info
  intro answer
  cases answer with
  | error e => exact .pure _
  | ok info => exact .pure _

theorem coordinatorInfo_within (hask : Asks g.coordinator R) : Act.Within g.coordinatorInfo R := by
  apply Act.Within.bind hask.info
  intro answer
  cases answer with
  | error e =>
    refine Act.Within.bind inFlight_within ?_
    intro calls
    exact .pure _
  | ok info =>
    apply Act.Within.bind hask.load
    intro load
    refine Act.Within.bind inFlight_within ?_
    intro calls
    exact .pure _

theorem job_within (hask : Asks g.coordinator R) (raw : String) : Attempt.Within (g.job raw) R := by
  refine Attempt.Within.bind (.check _) ?_
  intro id
  apply Attempt.Within.bind (hask.job id)
  intro job
  cases job with
  | none => exact .throw _
  | some job => exact .pure _

/-- What the supervisor does is one of its events, and all else of the answer is text. -/
theorem supervise_within {α : Type} {a : Attempt SupervisorFault σ α} (h : a.Within R)
    (answer : α → Response) :
    Attempt.Within (do return answer (← supervise a)) R := by
  apply Attempt.Within.bind (.mapError h _)
  intro x
  exact .pure _

theorem follow_within (hask : Asks g.coordinator R) {client : String} {body : Body} {route : Route}
    (hevent : ∀ e, route.supervisorEvent? body = some e →
      ∀ w, R w (g.supervisor.after g.names w e))
    (hlaunch : route = .launchProof →
      (g.launcher.launchBody client body.read g.coordinator).Within R) :
    (g.follow client body route).Within R := by
  cases route with
  | health => exact .surely (health_within hask)
  | version => exact .pure _
  | coordinatorInfo => exact .surely (coordinatorInfo_within hask)
  | load =>
    apply Attempt.Within.bind hask.load
    intro load
    exact .pure _
  | workers =>
    apply Attempt.Within.bind hask.workers
    intro workers
    exact .pure _
  | jobs activeOnly =>
    apply Attempt.Within.bind (hask.jobs activeOnly)
    intro jobs
    exact .pure _
  | job id => exact job_within hask id
  | cancelJob id =>
    refine Attempt.Within.bind (.discard (.check _)) ?_
    intro u
    exact .throw _
  | launchProof =>
    apply Attempt.Within.bind (hlaunch rfl)
    intro launched
    exact .pure _
  | startCoordinator => exact supervise_within (hevent _ rfl) _
  | stopCoordinator => exact supervise_within (hevent _ rfl) _
  | coordinatorProcess => exact supervise_within (hevent _ rfl) _
  | startWorker =>
    intro w
    change R w (w.attempt (g.startWorker body)).2
    rw [startWorker, World.attempt_bind, World.attempt_check]
    cases hread : (do (← WorkerRequest.read (← body.read)).launch : Except Failure WorkerLaunch) with
    | error e => exact refl_of R w
    | ok launch =>
      have hstart := hevent (.startWorker launch) (by rw [Route.supervisorEvent?, hread])
      exact supervise_within hstart (fun p => Report.success (Report.started p)) w
  | stopWorker raw =>
    intro w
    change R w (w.attempt (g.stopWorker raw)).2
    rw [stopWorker, World.attempt_bind, World.attempt_check]
    cases hid : pathParameter raw with
    | error e => exact refl_of R w
    | ok id =>
      have hstop := hevent (.stopWorker id) (by rw [Route.supervisorEvent?, hid])
      exact supervise_within hstop _ w
  | workerProcesses id =>
    cases id with
    | none => exact supervise_within (hevent _ rfl) _
    | some id => exact supervise_within (hevent _ rfl) _

theorem handle_within (hname : ∀ (w : World σ) (n : Nat), R w { w with madeUp := n })
    (hask : Asks g.coordinator R) {r : Request}
    (hevent : ∀ e, r.supervisorEvent? = some e → ∀ w, R w (g.supervisor.after g.names w e))
    (hlaunch : r.route? = some .launchProof → ∀ client,
      (g.launcher.launchBody client r.body.read g.coordinator).Within R) :
    (g.handle r).Within R := by
  have hattempt (client : String) : (g.attempt client r).Within R := by
    rw [attempt, ← Request.route?]
    cases hroute : r.route? with
    | none => exact .throw _
    | some route =>
      refine follow_within hask (fun e he => ?_) fun hlaunches => ?_
      · exact hevent e (by rw [Request.supervisorEvent?, hroute, Option.bind_some, he])
      · exact hlaunch (by rw [hroute, hlaunches]) client
  have hrespond (client : String) : (g.respond client r).Within R := by
    apply Act.Within.ite
    · exact .pure _
    · apply Act.Within.bind (hattempt client)
      intro result
      cases result with
      | error e => exact .pure _
      | ok response => exact .pure _
  have hid : (g.requestId r.headers).Within R := by
    rw [requestId]
    split
    · exact .pure _
    · exact fun w => hname w (w.madeUp + 1)
  apply Act.Within.bind hid
  intro id
  apply Act.Within.bind (hrespond _)
  intro response
  exact .pure _

end Within

end Gateway

end CoordinatorGateway
