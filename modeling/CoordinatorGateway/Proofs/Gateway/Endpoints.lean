import CoordinatorGateway.Coordinator.Remote
import CoordinatorGateway.Proofs.Coordinator.Address
import CoordinatorGateway.Proofs.Gateway.Questions
import CoordinatorGateway.Proofs.Settings.Rules

namespace CoordinatorGateway

theorem Remote.coordinator_endpoint (r : Remote) : r.coordinator.endpoint = r.endpoint := by
  rw [coordinator]

/-- Settings that break no rule name a server that calls can go to. -/
theorem Remote.exists_target_of_faults {s : Settings} (h : s.faults = []) :
    ∃ server, (ofSettings s.coordinator).target? = some server := by
  rw [Settings.faults_eq_nil_iff] at h
  have hvisible : ¬s.Breaks .emptyUrl := fun hempty => nomatch h _ hempty
  have hreadable : ¬s.Breaks (.badUrl s.coordinator.url) := fun hbad => nomatch h _ hbad
  refine Option.ne_none_iff_exists'.1 fun hnone => hreadable ⟨rfl, ?_, hnone⟩
  simpa [Settings.Breaks] using hvisible

theorem Supervisor.coordinatorUrl_ofSettings (s : Settings) (files : FileSystem)
    (directory : Place) (around : Surroundings) :
    (ofSettings s files directory around).coordinatorUrl = Address.normalize s.coordinator.url := by
  rw [ofSettings]

def Handle.ToldAddress (address : String) (x : Handle) (c : Child) : Prop :=
  x.role = .worker → ∃ program rest, c.argv = program :: "--coordinator-url" :: address :: rest

theorem Supervisor.Carries.toldAddress {s : Supervisor} {x : Handle} {c : Child}
    (h : s.Carries x c) : x.ToldAddress (Address.normalize s.coordinatorUrl) c := by
  intro hworker
  cases h with
  | coordinator hrole _ =>
    rw [hrole] at hworker
    cases hworker
  | worker _ _ hargv => exact ⟨_, _, hargv⟩

/-- The answer is a JSON object that gives this address as the endpoint. -/
def Response.Reports (address : String) (r : Response) : Prop :=
  ∃ members, ("endpoint", .string address) ∈ members ∧ r.body = (Json.map members).render

namespace Gateway

variable {σ : Type} (g : Gateway σ)

theorem decorate_body (id : String) (origin : Option String) (r : Response) :
    (decorate id origin r).body = r.body := by
  have hheaders (headers : List (String × String)) (r : Response) :
      (headers.foldl (fun r h => r.setHeader h.1 h.2) r).body = r.body := by
    induction headers generalizing r with
    | nil => rfl
    | cons h headers ih => exact ih (r.setHeader h.1 h.2)
  exact hheaders _ r

theorem coordinatorInfo_reports (w : World σ) :
    (w.run g.coordinatorInfo).1.Reports g.coordinator.endpoint := by
  rw [coordinatorInfo, World.run_bind, World.run_attempt]
  obtain ⟨f | info, w'⟩ := w.attempt (World.ask .info g.coordinator.info)
  · exact ⟨_, by simp, rfl⟩
  · exact ⟨_, by simp, rfl⟩

theorem handle_reports (w : World σ) {r : Request} (hroute : r.route? = some .coordinatorInfo) :
    (w.run (g.handle r)).1.Reports g.coordinator.endpoint := by
  obtain ⟨members, hmem, hbody⟩ :=
    g.coordinatorInfo_reports (w.run (g.requestId r.headers)).2
  refine ⟨members, hmem, ?_⟩
  rw [run_handle, Prod.map_fst, decorate_body, g.run_respond_routed _ _ hroute, follow,
    World.attempt_surely]
  exact hbody

/-- There is one address of the coordinator, in normal form, and normalizing it once more does not
change it. By it the settings are checked, to it go the calls, it is reported by every answer about
the coordinator, and each worker that is started in a run is told it. -/
theorem one_coordinator_address (settings : Settings) (host : Host)
    (around : Supervisor.Surroundings) (names : NameSource) (time : String) (links : List Link)
    (events : List Event) :
    let remote := Remote.ofSettings settings.coordinator
    let g := Gateway.ofSettings settings remote.coordinator host around names
    let after := (g.run (.initial links host time) events).2
    (∀ address, Address.Normal (Address.normalize address) ∧
      Address.normalize (Address.normalize address) = Address.normalize address) ∧
    remote.endpoint = Address.normalize settings.coordinator.url ∧
    (∀ url, .badUrl url ∈ settings.faults ↔ url = settings.coordinator.url ∧
      (∃ c ∈ url.toList, Unicode.isBlank c = false) ∧ remote.target? = none) ∧
    (settings.faults = [] → ∃ server, remote.target? = some server) ∧
    (∀ (w : World (List Link)) (r : Request), r.route? = some .coordinatorInfo →
      (w.run (g.handle r)).1.Reports remote.endpoint) ∧
    List.Forall₂ (Handle.ToldAddress remote.endpoint) after.started after.spawns := by
  intro remote g after
  have hcoordinator : g.coordinator = remote.coordinator := rfl
  refine ⟨fun address => ⟨Address.normal_normalize address, Address.normalize_normalize address⟩,
    rfl, fun url => ?_, Remote.exists_target_of_faults, fun w r hroute => ?_, ?_⟩
  · rw [Settings.mem_faults_iff]
    constructor
    · rintro ⟨⟨rfl, hvisible, hbad⟩, -⟩
      exact ⟨rfl, hvisible, hbad⟩
    · rintro ⟨rfl, hvisible, hbad⟩
      exact ⟨⟨rfl, hvisible, hbad⟩, nofun⟩
  · rw [← remote.coordinator_endpoint, ← hcoordinator]
    exact g.handle_reports w hroute
  · obtain ⟨xs, cs, hstarted, hspawns, hnew⟩ := g.adds_run (.initial links host time) events
    have hsupervisor : g.supervisor = .ofSettings settings host.files host.directory around := rfl
    have hsame : Address.normalize g.supervisor.coordinatorUrl = remote.endpoint := by
      rw [hsupervisor, Supervisor.coordinatorUrl_ofSettings, Address.normalize_normalize]
      rfl
    rw [show after.started = [] ++ xs from hstarted, show after.spawns = [] ++ cs from hspawns]
    exact hnew.imp fun x c h => hsame ▸ h.toldAddress

end Gateway

end CoordinatorGateway
