import CoordinatorGateway.Proofs.Audit.Launches
import CoordinatorGateway.Proofs.Audit.Processes
import CoordinatorGateway.Proofs.Gateway.Agreement
import CoordinatorGateway.Proofs.Gateway.Forwarding
import CoordinatorGateway.Proofs.Launch.Refusals

namespace CoordinatorGateway

variable {σ α : Type}

def World.SameAudits (w w' : World σ) : Prop := w'.audits = w.audits

instance : IsPreorder (World σ) World.SameAudits where
  refl _ := rfl
  trans _ _ _ h h' := h'.trans h

theorem Act.Apart.agree {act : Act σ α} (h : act.Apart false) :
    act.Agree (fun w v => v = w.unaudited) act := by
  rintro w _ rfl
  have hsame : w.unaudited.run act = ((w.run act).1, (w.run act).2.unaudited) :=
    (World.Apart.notes h w).same
  rw [hsame]
  exact ⟨rfl, rfl⟩

namespace Gateway

def auditing (g : Gateway σ) (enabled : Bool) : Gateway σ :=
  g.refitted (g.launcher.auditing enabled) (g.supervisor.auditing enabled)

variable (g : Gateway σ)

theorem attempt_supervise_world {a : Attempt SupervisorFault σ α} (answer : α → Response)
    (w : World σ) : (w.attempt (do return answer (← supervise a))).2 = (w.attempt a).2 := by
  rw [World.attempt_bind, supervise, World.attempt_mapError]
  rcases w.attempt a with ⟨fault | x, w'⟩
  · rfl
  · rfl

theorem attempt_follow_supervisor {body : Body} {route : Route} {e : Supervisor.Event}
    (h : route.supervisorEvent? body = some e) (client : String) (w : World σ) :
    (w.attempt (g.follow client body route)).2 = g.supervisor.after g.names w e := by
  cases route with
  | startCoordinator | stopCoordinator | coordinatorProcess =>
    obtain rfl := Option.some.inj h
    exact attempt_supervise_world _ w
  | startWorker =>
    rw [Route.supervisorEvent?] at h
    rw [follow, startWorker, World.attempt_bind, World.attempt_check]
    cases hread :
        (do (← WorkerRequest.read (← body.read)).launch : Except Failure WorkerLaunch) with
    | error f =>
      rw [hread] at h
      cases h
    | ok launch =>
      rw [hread] at h
      obtain rfl := Option.some.inj h
      exact attempt_supervise_world (fun p => Report.success (Report.started p)) w
  | stopWorker raw =>
    rw [Route.supervisorEvent?] at h
    rw [follow, stopWorker, World.attempt_bind, World.attempt_check]
    cases hid : pathParameter raw with
    | error f =>
      rw [hid] at h
      cases h
    | ok id =>
      rw [hid] at h
      obtain rfl := Option.some.inj h
      exact attempt_supervise_world
        (fun outcome => Report.success (("worker_id", .string id) :: Report.stopped outcome)) w
  | workerProcesses id =>
    cases id with
    | none =>
      obtain rfl := Option.some.inj h
      exact attempt_supervise_world _ w
    | some id =>
      obtain rfl := Option.some.inj h
      exact attempt_supervise_world _ w
  | _ => cases h

theorem run_handle_supervisor {r : Request} {e : Supervisor.Event}
    (h : r.supervisorEvent? = some e) (w : World σ) :
    (w.run (g.handle r)).2 =
      g.supervisor.after g.names (w.run (g.requestId r.headers)).2 e := by
  obtain ⟨route, hroute, he⟩ := Option.bind_eq_some_iff.1 h
  rw [run_handle, Prod.map_snd, g.run_respond_world _ _ hroute]
  exact g.attempt_follow_supervisor he _ _

theorem decorate_status (id : String) (origin : Option String) (r : Response) :
    (decorate id origin r).status = r.status := by
  have hheaders (headers : List (String × String)) (r : Response) :
      (headers.foldl (fun r h => r.setHeader h.1 h.2) r).status = r.status := by
    induction headers generalizing r with
    | nil => rfl
    | cons h headers ih => exact ih (r.setHeader h.1 h.2)
  exact hheaders _ r

theorem launchResponse_status_iff {r : Except Failure LaunchedProof} :
    (launchResponse r).status = 200 ↔ ∃ launched, r = .ok launched := by
  cases r with
  | ok launched => exact iff_of_true rfl ⟨launched, rfl⟩
  | error f =>
    refine iff_of_false (fun hstatus => ?_) nofun
    have hcode : f.code.status ≠ 200 := by cases f.code <;> decide
    exact hcode (f.response_tells.status.symm.trans hstatus)

/-- The events `xs` are just what there is to be recorded of `e`, met in the world `w`. -/
inductive Records (w : World σ) : Event → List AuditEvent → Prop
  /-- One event for the client of a launch, which says how it has ended. -/
  | launch {r : Request} {x : AuditEvent} (hmethod : r.method = "POST")
      (hpath : r.target.path = "/api/proof/launch")
      (hclient : x.client = some (clientIdentity r.headers r.peer g.trustProxy))
      (hname : x.name = (g.launcher.endsAs (clientIdentity r.headers r.peer g.trustProxy) r.body
        g.coordinator w).eventName)
      (hsucceeded : x.name = "launch.succeeded" ↔ (w.run (g.handle r)).1.status = 200) :
      Records w (.request r) [x]
  /-- A request that makes the supervisor do something, and does no more. -/
  | supervisor {r : Request} {e : Supervisor.Event} {xs : List AuditEvent}
      (hevent : r.supervisorEvent? = some e)
      (hafter : (w.run (g.handle r)).2 =
        g.supervisor.after g.names (w.run (g.requestId r.headers)).2 e)
      (h : g.supervisor.Records g.names (w.run (g.requestId r.headers)).2 e xs) :
      Records w (.request r) xs
  | other {r : Request} (hlaunch : ¬(r.method = "POST" ∧ r.target.path = "/api/proof/launch"))
      (hevent : r.supervisorEvent? = none) : Records w (.request r) []
  | processes {e : Supervisor.Event} {xs : List AuditEvent}
      (h : g.supervisor.Records g.names w e xs) : Records w (.processes e) xs
  | clock {now : Nat} : Records w (.clock now) []
  | sweep : Records w .sweep []

theorem audits_requestId (w : World σ) (h : Headers) :
    (w.run (g.requestId h)).2.audits = w.audits := by
  rcases g.run_requestId_world w h with hsame | hnamed
  · rw [hsame]
  · rw [hnamed]
    rfl

theorem endsAs_requestId (l : Launcher) (client : String) (body : Body) (w : World σ)
    (h : Headers) : l.endsAs client body g.coordinator (w.run (g.requestId h)).2 =
      l.endsAs client body g.coordinator w := by
  rcases g.run_requestId_world w h with hsame | hnamed
  · rw [hsame]
  · rw [hnamed]
    rfl

theorem records_launch {r : Request} (hmethod : r.method = "POST")
    (hpath : r.target.path = "/api/proof/launch") (w : World σ) :
    ∃ xs, (w.run ((g.auditing true).handle r)).2.audits = w.audits ++ xs ∧
      (g.auditing true).Records w (.request r) xs := by
  have hrun := (g.auditing true).run_handle w r
  rw [run_respond_launch _ _ r _ hmethod hpath] at hrun
  obtain ⟨-, xs, hxs, x, rfl, htells⟩ := g.launcher.launchBody_notes
    (clientIdentity r.headers r.peer g.trustProxy) g.coordinator r.body
    (w.run ((g.auditing true).requestId r.headers)).2
  rw [audits_requestId] at hxs
  have hname := htells.name.trans (congrArg LaunchEnd.eventName
    ((g.auditing true).endsAs_requestId g.launcher _ r.body w r.headers))
  refine ⟨[x], ?_, .launch hmethod hpath htells.client hname ?_⟩
  · rw [hrun]
    exact hxs
  · rw [hrun, Prod.map_fst, decorate_status, htells.name]
    refine (LaunchEnd.eventName_injective.eq_iff (b := .succeeded)).trans ?_
    rw [htells.succeeded]
    exact launchResponse_status_iff.symm

theorem audits_handle {r : Request} (hlaunch : r.route? ≠ some .launchProof)
    (hevent : r.supervisorEvent? = none) (w : World σ) :
    (w.run (g.handle r)).2.audits = w.audits := by
  have hwithin : (g.handle r).Within World.SameAudits := by
    refine handle_within (fun _ _ => rfl) (.of_any (fun w call s _ => ?_) _) (fun e he => ?_)
      fun hroute => absurd hroute hlaunch
    · exact (w.audits_asked call s).trans (List.append_nil _)
    · rw [hevent] at he
      cases he
  exact hwithin w

theorem records_meet (w : World σ) (e : Event) :
    ∃ xs, ((g.auditing true).meet w e).2.audits = w.audits ++ xs ∧
      (g.auditing true).Records w e xs := by
  cases e with
  | request r =>
    by_cases hlaunch : r.method = "POST" ∧ r.target.path = "/api/proof/launch"
    · exact g.records_launch hlaunch.1 hlaunch.2 w
    · cases hevent : r.supervisorEvent? with
      | none =>
        have hroute : r.route? ≠ some .launchProof := fun hroute =>
          hlaunch (Request.launch_of_route hroute)
        refine ⟨[], ?_, .other hlaunch hevent⟩
        rw [List.append_nil]
        exact audits_handle _ hroute hevent w
      | some e =>
        have hafter := (g.auditing true).run_handle_supervisor hevent w
        obtain ⟨-, xs, hxs, hrecords⟩ := g.supervisor.after_notes g.names
          (w.run ((g.auditing true).requestId r.headers)).2 e
        rw [audits_requestId] at hxs
        exact ⟨xs, (congrArg World.audits hafter).trans hxs, .supervisor hevent hafter hrecords⟩
  | processes e =>
    obtain ⟨-, xs, hxs, hrecords⟩ := g.supervisor.after_notes g.names w e
    exact ⟨xs, hxs, .processes hrecords⟩
  | clock now => exact ⟨[], (List.append_nil _).symm, .clock⟩
  | sweep => exact ⟨[], (List.append_nil _).symm, .sweep⟩

/-- The events `xs` are just what there is to be recorded of the session, in its order. -/
inductive Trail : World σ → List Event → List AuditEvent → Prop
  | nil {w : World σ} : Trail w [] []
  | cons {w : World σ} {e : Event} {events : List Event} {xs ys : List AuditEvent}
      (h : g.Records w e xs) (hrest : Trail (g.meet w e).2 events ys) :
      Trail w (e :: events) (xs ++ ys)

theorem trail_run (w : World σ) (events : List Event) :
    ∃ xs, ((g.auditing true).run w events).2.audits = w.audits ++ xs ∧
      (g.auditing true).Trail w events xs := by
  induction events generalizing w with
  | nil => exact ⟨[], (List.append_nil _).symm, .nil⟩
  | cons e events ih =>
    obtain ⟨xs, hxs, hrecords⟩ := g.records_meet w e
    obtain ⟨ys, hys, htrail⟩ := ih ((g.auditing true).meet w e).2
    refine ⟨xs ++ ys, ?_, .cons hrecords htrail⟩
    rw [← List.append_assoc, ← hxs]
    exact hys

theorem matches_quiet : (g.auditing true).Matches (fun w v => v = w.unaudited)
    (g.launcher.auditing false) (g.supervisor.auditing false) where
  makeName := (Act.Apart.makeName _).agree
  inFlight := by
    rintro w _ rfl
    exact ⟨rfl, rfl⟩
  info := (Attempt.Silent.ask _ _).agree
  load := (Attempt.Silent.ask _ _).agree
  jobs _ := (Attempt.Silent.ask _ _).agree
  job _ := (Attempt.Silent.ask _ _).agree
  workers := (Attempt.Silent.ask _ _).agree
  launch client body :=
    Attempt.agree_of_notes fun w => g.launcher.launchBody_notes client g.coordinator body w
  startCoordinator := g.supervisor.startCoordinator_tells.agree
  stopCoordinator := Attempt.agree_of_notes g.supervisor.stopCoordinator_notes
  coordinatorStatus := g.supervisor.coordinatorStatus_apart.silent.agree
  startWorker launch := (g.supervisor.startWorker_tells g.names launch).agree
  stopWorker id := Attempt.agree_of_notes (g.supervisor.stopWorker_notes id)
  workerStatus := g.supervisor.workerStatus_apart.silent.agree
  workerStatusById id := (g.supervisor.workerStatusById_apart id).silent.agree
  after e w v hv := by
    rw [hv]
    exact congrArg Prod.snd (g.supervisor.after_notes g.names w e).same
  clock now w v hv := by
    rw [hv]
    rfl
  sweep w v hv := by
    rw [hv]
    rfl

theorem run_quiet (w : World σ) (events : List Event) :
    (g.auditing false).run w.unaudited events =
      (((g.auditing true).run w events).1, ((g.auditing true).run w events).2.unaudited) := by
  obtain ⟨hanswers, hworlds⟩ := run_agree g.matches_quiet events (w := w) rfl
  exact Prod.ext hanswers hworlds

theorem ofSettings_auditing (settings : Settings) (audit : Bool) (c : Coordinator σ) (host : Host)
    (around : Supervisor.Surroundings) (names : NameSource) :
    ofSettings { settings with auditEnabled := audit } c host around names =
      (ofSettings settings c host around names).auditing audit := by
  rw [ofSettings, Launcher.ofSettings_auditing, Supervisor.ofSettings_auditing]
  rfl

/-- With the audit on, the session records what there is to be recorded of its events, one after the
other. With the audit off, it gives the same answers and comes to the same state, in which nothing
is recorded. -/
theorem audits_run (settings : Settings) (c : Coordinator σ) (host : Host)
    (around : Supervisor.Surroundings) (names : NameSource) (w : World σ) (events : List Event) :
    let g (audit : Bool) :=
      ofSettings { settings with auditEnabled := audit } c host around names
    let on := (g true).run w events
    let off := (g false).run w.unaudited events
    (∃ xs, on.2.audits = w.audits ++ xs ∧ (g true).Trail w events xs) ∧
      off = (on.1, on.2.unaudited) ∧ off.2.audits = [] := by
  intro g on off
  have hoff : off = (on.1, on.2.unaudited) := by
    simp only [off, on, g, ofSettings_auditing]
    exact run_quiet _ w events
  refine ⟨?_, hoff, ?_⟩
  · simp only [on, g, ofSettings_auditing]
    exact trail_run _ w events
  · rw [hoff]
    exact on.2.audits_unaudited

/-- A launch without a body, a start, and two stops, the second of which finds nothing to stop. -/
example :
    let g : Gateway Script := ofSettings
      { auditEnabled := true, processes := { coordinatorProgram := some "/coordinator" } }
      (Script.coordinator "") (.furnished {}) ⟨none, none⟩ .blank
    let post (path : String) : Event :=
      .request ⟨"POST", ⟨none, "", path, none⟩, [], ⟨[], false⟩, .v4 [127, 0, 0, 1]⟩
    (g.run (.initial {} (.furnished {}) "") [post "/api/proof/launch",
        post "/api/coordinator/start", post "/api/coordinator/stop",
        post "/api/coordinator/stop"]).2.audits.map AuditEvent.name =
      ["admission.rejected", "process.start", "process.stop"] := by
  decide +kernel

end Gateway

end CoordinatorGateway
