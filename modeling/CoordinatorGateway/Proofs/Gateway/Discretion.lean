import CoordinatorGateway.Proofs.Coordinator.Alike
import CoordinatorGateway.Proofs.Gateway.Agreement
import CoordinatorGateway.Proofs.Supervisor.Apart

namespace CoordinatorGateway

variable {σ α : Type} {R : σ → σ → Prop} {audit : Bool}

/-- Worlds that differ in nothing but the coordinators, which are related. -/
def World.Alike (R : σ → σ → Prop) (w v : World σ) : Prop :=
  ∃ s, R w.coordinator s ∧ v = w.facing s

theorem World.Apart.agree {step : World σ → α × World σ} (h : World.Apart audit step)
    {w v : World σ} (hw : World.Alike R w v) : World.Agree (World.Alike R) (step w) (step v) := by
  obtain ⟨s, hs, rfl⟩ := hw
  rw [h.blind]
  refine ⟨rfl, s, ?_, rfl⟩
  rw [h.coordinator]
  exact hs

theorem Act.Apart.discreet {act : Act σ α} (h : act.Apart audit) :
    act.Agree (World.Alike R) act :=
  fun _ _ hw => World.Apart.agree h hw

theorem Attempt.Apart.discreet {ε : Type} {a : Attempt ε σ α} (h : a.Apart audit) :
    a.Agree (World.Alike R) a :=
  fun _ _ hw => World.Apart.agree h hw

theorem Attempt.Agree.ask (call : CoordinatorCall) {answer : σ → Except Failure α × σ}
    (h : Respects R answer) :
    Attempt.Agree (World.Alike R) (World.ask call answer) (World.ask call answer) := by
  rintro w v ⟨s, hs, rfl⟩
  obtain ⟨hsame, hafter⟩ := h hs
  exact ⟨hsame.symm, (answer s).2, hafter, rfl⟩

variable {c : Coordinator σ}

theorem LaunchOrder.dispatch_discreet (hc : c.Respects R) (order : LaunchOrder) :
    (order.dispatch c).Agree (World.Alike R) (order.dispatch c) := by
  have hask {α : Type} (call : CoordinatorCall) {answer : σ → Except Failure α × σ}
      (h : Respects R answer) :
      (LaunchOrder.ask call answer).Agree (World.Alike R) (LaunchOrder.ask call answer) :=
    .mapError (.ask call h) _
  apply Attempt.Agree.bind (hask _ (hc.jobs true))
  intro jobs
  refine Attempt.Agree.bind (.check _) ?_
  intro u
  apply Attempt.Agree.bind (hask _ hc.load)
  intro load
  refine Attempt.Agree.bind (.check _) ?_
  intro v
  apply Attempt.Agree.bind (hask _ (hc.launch order))
  intro jobId
  have hanswer : Attempt.Apart false
      (if jobId.isEmpty then throw .noJobId else pure jobId : Attempt LaunchRefusal σ String) :=
    .ite (.throw _) (.pure _)
  exact hanswer.discreet

theorem Launcher.launchBody_discreet (l : Launcher) (hc : c.Respects R) (client : String)
    (body : Except Failure Bytes) :
    (l.launchBody client body c).Agree (World.Alike R) (l.launchBody client body c) := by
  have hchecked {α : Type} (result : Except Failure α) {step : Failure → Act σ Unit}
      (hstep : ∀ f, (step f).Apart l.auditEnabled) :
      ((Attempt.check result).onError step).Agree (World.Alike R)
        ((Attempt.check result).onError step) :=
    .onError (.check _) fun f => (hstep f).discreet
  apply Attempt.Agree.bind (hchecked _ fun _ => .record _ _)
  intro request
  apply Attempt.Agree.bind (hchecked _ fun _ => .record _ _)
  intro order
  have hthrottle : (l.throttle client order : Attempt Failure σ Unit).Agree (World.Alike R)
      (l.throttle client order) := by
    have hobserve : Act.Apart false (l.observe client : Act σ _) := .of_eq fun _ _ _ => rfl
    apply Attempt.Agree.bind (.surely hobserve.discreet)
    intro verdict
    exact hchecked _ fun _ => .record _ _
  apply Attempt.Agree.bind hthrottle
  intro u
  apply Attempt.Agree.bind
  · apply Attempt.Agree.mapError
    apply Attempt.Agree.onError (order.dispatch_discreet hc)
    intro refusal
    exact (Act.Apart.record _ _).discreet
  · intro jobId
    apply Attempt.Agree.bind (.surely (Act.Apart.record _ _).discreet)
    intro v
    exact .pure _

namespace Gateway

variable {g : Gateway σ}

theorem matches_self (hc : g.coordinator.Respects R) :
    g.Matches (World.Alike R) g.launcher g.supervisor where
  makeName := (.makeName _ : Act.Apart false _).discreet
  inFlight := by
    rintro w v ⟨s, hs, rfl⟩
    exact ⟨(hc.inFlight hs).symm, s, hs, rfl⟩
  info := .ask _ hc.info
  load := .ask _ hc.load
  jobs activeOnly := .ask _ (hc.jobs activeOnly)
  job id := .ask _ (hc.job id)
  workers := .ask _ hc.workers
  launch client body := g.launcher.launchBody_discreet hc client body.read
  startCoordinator := g.supervisor.startCoordinator_apart.discreet
  stopCoordinator := g.supervisor.stopCoordinator_apart.discreet
  coordinatorStatus := (g.supervisor.coordinatorStatus_apart : Attempt.Apart false _).discreet
  startWorker launch := (g.supervisor.startWorker_apart g.names launch).discreet
  stopWorker id := (g.supervisor.stopWorker_apart id).discreet
  workerStatus := (g.supervisor.workerStatus_apart : Attempt.Apart false _).discreet
  workerStatusById id :=
    (g.supervisor.workerStatusById_apart id : Attempt.Apart false _).discreet
  after e _ _ hw := ((g.supervisor.after_apart g.names e).agree hw).worlds
  clock := by
    rintro now w v ⟨s, hs, rfl⟩
    exact ⟨s, hs, rfl⟩
  sweep := by
    rintro w v ⟨s, hs, rfl⟩
    exact ⟨s, hs, rfl⟩

theorem run_discreet (hc : g.coordinator.Respects R) (events : List Event) {w : World σ} {s : σ}
    (hs : R w.coordinator s) :
    ∃ t, R (g.run w events).2.coordinator t ∧
      g.run (w.facing s) events = ((g.run w events).1, (g.run w events).2.facing t) := by
  obtain ⟨hresponses, t, ht, hworld⟩ := run_agree (matches_self hc) events ⟨s, hs, rfl⟩
  exact ⟨t, ht, Prod.ext hresponses hworld⟩

/-- However a gateway is set up, and whatever happens: of the coordinator's errors only the codes
and the redacted texts show in the responses and in the trace, and of some only the codes. -/
theorem ofSettings_discreet (settings : Settings) (debug : Bool) (r : Remote) (host : Host)
    (around : Supervisor.Surroundings) (names : NameSource) (events : List Event)
    (w : World (List Link)) (links : List Link)
    (halike : List.Forall₂ Link.Alike w.coordinator links) :
    let g := ofSettings settings r.coordinator host around names
    let g' := ofSettings { settings with debug := debug } r.coordinator host around names
    (g'.run (w.facing links) events).1 = (g.run w events).1 ∧
      (g'.run (w.facing links) events).2.trace = (g.run w events).2.trace ∧
      ∃ rest, List.Forall₂ Link.Alike (g.run w events).2.coordinator rest ∧
        (g'.run (w.facing links) events).2 = (g.run w events).2.facing rest := by
  intro g g'
  have hsame : g' = g := rfl
  obtain ⟨rest, hrest, hrun⟩ :=
    run_discreet (g := g) (R := List.Forall₂ Link.Alike) r.coordinator_respects events halike
  rw [hsame, hrun]
  exact ⟨rfl, rfl, rest, hrest, rfl⟩

/-- An error with an address in its text, one for a job that is not known, and one that comes
late. -/
theorem ofSettings_discreet_three :
    let fails (code : StatusCode) (text : String) : SentRequest → WireReply :=
      fun _ => ⟨none, ⟨code, text⟩⟩
    let knowsNot (text : String) : SentRequest → WireReply := fun sent =>
      ⟨none, ⟨.notFound, if sent.path = Remote.jobPath then text else ""⟩⟩
    let links (dial unknown cancel : String) : List Link :=
      [.replies (fails .unavailable dial), .replies (knowsNot unknown),
        .late ⟨5⟩ (fails .cancelled cancel)]
    let get (path : String) : Event :=
      .request ⟨"GET", ⟨none, "", path, none⟩, [], ⟨[], false⟩, .v4 [127, 0, 0, 1]⟩
    let responses (debug : Bool) (links : List Link) : List Response :=
      (run (ofSettings { debug := debug } (Remote.coordinator ⟨"c", ⟨10⟩⟩) (.furnished {})
          ⟨none, none⟩ .blank) (.initial links (.furnished {}) "")
        [get "/health", get "/api/job/j", get "/api/jobs"]).1
    responses true (links "dial 10.0.0.2:50051 failed" "no j" "by peer 2") =
      responses false (links "dial 10.0.0.1:443 failed" "j is not in /var/jobs" "by peer 1") := by
  intro fails knowsNot links get responses
  have hdial : (Link.replies (fails .unavailable "dial 10.0.0.1:443 failed")).Alike
      (.replies (fails .unavailable "dial 10.0.0.2:50051 failed")) :=
    .replies fun _ => ⟨rfl, rfl, .inl (by decide +kernel)⟩
  have hunknown : (Link.replies (knowsNot "j is not in /var/jobs")).Alike
      (.replies (knowsNot "no j")) := by
    refine .replies fun sent => ⟨rfl, rfl, ?_⟩
    by_cases hpath : sent.path = Remote.jobPath
    · exact .inr (.inr (.inr ⟨rfl, hpath⟩))
    · simp only [knowsNot, hpath, if_false, true_or]
  have hcancel : (Link.late ⟨5⟩ (fails .cancelled "by peer 1")).Alike
      (.late ⟨5⟩ (fails .cancelled "by peer 2")) :=
    .late _ fun _ => ⟨rfl, rfl, .inr (.inl rfl)⟩
  exact (ofSettings_discreet {} true ⟨"c", ⟨10⟩⟩ (.furnished {}) ⟨none, none⟩ .blank
    [get "/health", get "/api/job/j", get "/api/jobs"]
    (.initial (links "dial 10.0.0.1:443 failed" "j is not in /var/jobs" "by peer 1")
      (.furnished {}) "")
    (links "dial 10.0.0.2:50051 failed" "no j" "by peer 2")
    (.cons hdial (.cons hunknown (.cons hcancel .nil)))).1

end Gateway

end CoordinatorGateway
