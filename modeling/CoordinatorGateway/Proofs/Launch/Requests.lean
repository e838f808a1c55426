import CoordinatorGateway.Coordinator.Scripted
import CoordinatorGateway.Gateway.Handle
import CoordinatorGateway.Proofs.Launch.Stages
import Mathlib.Control.Monad.Basic

namespace CoordinatorGateway

variable {σ : Type}

/-- Nothing that comes before the launch stops it. -/
structure Launcher.GoesOut (l : Launcher) (client : String) (order : LaunchOrder)
    (c : Coordinator σ) (w : World σ) : Prop where
  admitted : (l.limiter.observe w.store client w.now).1 = .ok ()
  block_free : ∃ jobs, (c.jobs true w.coordinator).1 = .ok jobs ∧
    ∀ j ∈ jobs, ¬(j.blockId = order.blockId ∧ (j.state = "created" ∨ j.state = "running"))
  worker_idle : ∃ load, (c.load (c.jobs true w.coordinator).2).1 = .ok load ∧
    0 < load.totalWorkers ∧ 0 < load.idleWorkers

namespace LaunchOrder

variable (order : LaunchOrder) (c : Coordinator σ) (w : World σ)

theorem calls_stages :
    let jobs : Stage σ := .asking (.jobs true) (c.jobs true) order.hasFreeBlock
    let load : Stage σ := .asking .load c.load hasIdleWorker
    let goesOut := jobs.passes w = true ∧ load.passes (jobs.act w) = true
    ∃ made, (Stage.runAll (order.stages c) w).calls = w.calls ++ made ∧
      (goesOut ∧ made = [.jobs true, .load, .launch order] ∨
        ¬goesOut ∧ made <+: [.jobs true, .load]) := by
  intro jobs load goesOut
  let launch : Stage σ := .asking (.launch order) (c.launch order) fun _ => true
  have hjobs : (jobs.act w).calls = w.calls ++ [.jobs true] := Stage.calls_asking _ _ _ w
  have hload : (load.act (jobs.act w)).calls = w.calls ++ [.jobs true, .load] := by
    rw [Stage.calls_asking, hjobs, List.append_assoc, List.singleton_append]
  have hlaunch : (launch.act (load.act (jobs.act w))).calls =
      w.calls ++ [.jobs true, .load, .launch order] := by
    rw [Stage.calls_asking, hload, List.append_assoc]
    rfl
  change ∃ made, (Stage.runAll [jobs, load, launch] w).calls = w.calls ++ made ∧ _
  rw [Stage.runAll]
  by_cases hfree : jobs.passes w = true
  · rw [if_pos hfree, Stage.runAll]
    by_cases hidle : load.passes (jobs.act w) = true
    · rw [if_pos hidle, Stage.runAll, Stage.runAll, ite_self]
      exact ⟨_, hlaunch, .inl ⟨⟨hfree, hidle⟩, rfl⟩⟩
    · rw [if_neg hidle]
      exact ⟨_, hload, .inr ⟨fun h => hidle h.2, List.prefix_rfl⟩⟩
  · rw [if_neg hfree]
    exact ⟨_, hjobs, .inr ⟨fun h => hfree h.1, List.prefix_append [_] [_]⟩⟩

end LaunchOrder

namespace Launcher

variable {l : Launcher} {client : String} {order : LaunchOrder} {c : Coordinator σ} {w : World σ}

theorem goesOut_iff :
    l.GoesOut client order c w ↔
      (Stage.admission l.limiter client).passes w = true ∧
        (Stage.asking (.jobs true) (c.jobs true) order.hasFreeBlock).passes
          ((Stage.admission l.limiter client).act w) = true ∧
          (Stage.asking .load c.load LaunchOrder.hasIdleWorker).passes
            ((Stage.asking (.jobs true) (c.jobs true) order.hasFreeBlock).act
              ((Stage.admission l.limiter client).act w)) = true := by
  simp only [Stage.admission_passes_iff, Stage.asking_passes_iff, LaunchOrder.hasFreeBlock,
    LaunchOrder.hasIdleWorker, decide_eq_true_eq]
  constructor
  · intro h
    exact ⟨h.admitted, h.block_free, h.worker_idle⟩
  · rintro ⟨hadmitted, hfree, hidle⟩
    exact ⟨hadmitted, hfree, hidle⟩

theorem calls_stages (l : Launcher) (client : String) (order : LaunchOrder) (c : Coordinator σ)
    (w : World σ) :
    ∃ made, (Stage.runAll (l.stages client order c) w).calls = w.calls ++ made ∧
      (l.GoesOut client order c w ∧ made = [.jobs true, .load, .launch order] ∨
        ¬l.GoesOut client order c w ∧ made <+: [.jobs true, .load]) := by
  rw [goesOut_iff, stages, Stage.runAll]
  by_cases hadmitted : (Stage.admission l.limiter client).passes w = true
  · rw [if_pos hadmitted]
    obtain ⟨made, hcalls, hmade⟩ := order.calls_stages c ((Stage.admission l.limiter client).act w)
    refine ⟨made, hcalls, ?_⟩
    simpa only [hadmitted, true_and] using hmade
  · rw [if_neg hadmitted]
    refine ⟨[], (List.append_nil w.calls).symm, .inr ⟨fun h => hadmitted h.1, List.nil_prefix⟩⟩

theorem calls_limited (order : LaunchOrder) (c : Coordinator σ)
    (h : (l.limiter.observe w.store client w.now).1 ≠ .ok ()) :
    (Stage.runAll (l.stages client order c) w).calls = w.calls := by
  have hpass : ¬(Stage.admission l.limiter client).passes w = true := by
    rw [Stage.admission_passes_iff]
    exact h
  rw [stages, Stage.runAll, if_neg hpass]
  rfl

/-- The body is for one order alone, so no other one is among the calls. -/
theorem launch_mem_iff {body : Body} {made : List CoordinatorCall}
    (horder : body.Orders l.policy order)
    (hout : l.GoesOut client order c w ∧ made = [.jobs true, .load, .launch order] ∨
      ¬l.GoesOut client order c w ∧ made <+: [.jobs true, .load]) (other : LaunchOrder) :
    (.launch other ∈ made ↔ body.Orders l.policy other ∧ l.GoesOut client other c w) ∧
      (.launch other ∈ made → made = [.jobs true, .load, .launch other]) := by
  rcases hout with ⟨hgoes, rfl⟩ | ⟨hstays, hprefix⟩
  · refine ⟨⟨fun hmem => ?_, fun h => ?_⟩, fun hmem => ?_⟩
    · obtain rfl : other = order := by simpa using hmem
      exact ⟨horder, hgoes⟩
    · obtain rfl := h.1.unique horder
      simp
    · obtain rfl : other = order := by simpa using hmem
      rfl
  · have hnone : CoordinatorCall.launch other ∉ made := by
      intro hmem
      simpa using hprefix.subset hmem
    refine ⟨⟨fun hmem => absurd hmem hnone, fun h => ?_⟩, fun hmem => absurd hmem hnone⟩
    obtain rfl := h.1.unique horder
    exact absurd h.2 hstays

end Launcher

namespace Gateway

variable (g : Gateway σ) (w : World σ) (r : Request)

theorem run_requestId (h : Headers) : (w.run (g.requestId h)).2.unrecorded = w.unrecorded := by
  rw [requestId]
  split <;> rfl

theorem launchRoute (target : Uri) (h : target.path = "/api/proof/launch") :
    Route.find? "POST" target.path (target.query.getD "") = some .launchProof := by
  rw [h]
  rfl

def launchResponse : Except Failure LaunchedProof → Response
  | .ok launched => Report.success launched.members
  | .error f => f.response

theorem run_respond_launch (client : String) (hmethod : r.method = "POST")
    (hpath : r.target.path = "/api/proof/launch") :
    w.run (g.respond client r) =
      (launchResponse (w.attempt (g.launcher.launchBody client r.body.read g.coordinator)).1,
        (w.attempt (g.launcher.launchBody client r.body.read g.coordinator)).2) := by
  have hasks : r.method ≠ "OPTIONS" := by
    rw [hmethod]
    decide
  have hroute := launchRoute r.target hpath
  rw [← hmethod] at hroute
  rw [respond, if_neg hasks, World.run_bind, World.run_attempt, attempt, hroute]
  dsimp only
  rw [follow, World.attempt_bind]
  obtain ⟨f | launched, w'⟩ := w.attempt (g.launcher.launchBody client r.body.read g.coordinator)
  · rfl
  · rfl

theorem run_handle_launch (hmethod : r.method = "POST")
    (hpath : r.target.path = "/api/proof/launch") :
    ∃ w' : World σ, w'.unrecorded = w.unrecorded ∧ ∃ id,
      let done := w'.attempt (g.launcher.launchBody
        (clientIdentity r.headers r.peer g.trustProxy) r.body.read g.coordinator)
      w.run (g.handle r) =
        (decorate id (g.allowedOrigin? r.headers) (launchResponse done.1), done.2) := by
  refine ⟨(w.run (g.requestId r.headers)).2, g.run_requestId w r.headers,
    (w.run (g.requestId r.headers)).1, ?_⟩
  rw [handle, World.run_bind, World.run_bind, World.run_pure,
    run_respond_launch g _ r _ hmethod hpath]

section launch

variable {g : Gateway σ} {w : World σ} {r : Request} (hmethod : r.method = "POST")
  (hpath : r.target.path = "/api/proof/launch")

include hmethod hpath

theorem unrecorded_handle_ordered {order : LaunchOrder}
    (h : r.body.Orders g.launcher.policy order) :
    (w.run (g.handle r)).2.unrecorded =
      Stage.runAll (g.launcher.stages (clientIdentity r.headers r.peer g.trustProxy) order
        g.coordinator) w.unrecorded := by
  obtain ⟨w', hw', _, hafter⟩ := run_handle_launch g w r hmethod hpath
  rw [hafter, Launcher.attempt_launchBody_ordered h, Stage.runAll_unrecorded, hw']
  exact Launcher.stages_unheeding _ _ _ _

theorem unrecorded_handle_refused (h : ∀ order, ¬r.body.Orders g.launcher.policy order) :
    (w.run (g.handle r)).2.unrecorded = w.unrecorded := by
  obtain ⟨w', hw', _, hafter⟩ := run_handle_launch g w r hmethod hpath
  rw [hafter, Launcher.attempt_launchBody_refused h, hw']

theorem calls_handle_ordered {order : LaunchOrder} (h : r.body.Orders g.launcher.policy order) :
    (w.run (g.handle r)).2.calls =
      (Stage.runAll (g.launcher.stages (clientIdentity r.headers r.peer g.trustProxy) order
        g.coordinator) w).calls := by
  apply World.calls_congr
  rw [unrecorded_handle_ordered hmethod hpath h, Stage.runAll_unrecorded]
  exact Launcher.stages_unheeding _ _ _ _

end launch

/-- What a launch request does: its stages in their order, up to the first that fails, and nothing
at all where its body is no order. -/
theorem handle_launch (g : Gateway σ) (w : World σ) (r : Request) (hmethod : r.method = "POST")
    (hpath : r.target.path = "/api/proof/launch") :
    let client := clientIdentity r.headers r.peer g.trustProxy
    let policy := g.launcher.policy
    let after := (w.run (g.handle r)).2
    (∀ order, r.body.Orders policy order →
      after.unrecorded =
        Stage.runAll (g.launcher.stages client order g.coordinator) w.unrecorded) ∧
    ((∀ order, ¬r.body.Orders policy order) → after.unrecorded = w.unrecorded) ∧
    ((g.launcher.limiter.observe w.store client w.now).1 ≠ .ok () → after.calls = w.calls) ∧
    ∃ made, after.calls = w.calls ++ made ∧ ∀ order,
      (.launch order ∈ made ↔
        r.body.Orders policy order ∧ g.launcher.GoesOut client order g.coordinator w) ∧
      (.launch order ∈ made → made = [.jobs true, .load, .launch order]) := by
  intro client policy after
  refine ⟨fun order => unrecorded_handle_ordered hmethod hpath,
    unrecorded_handle_refused hmethod hpath, ?_⟩
  by_cases hany : ∃ order, r.body.Orders policy order
  · obtain ⟨order, horder⟩ := hany
    have hcalls := calls_handle_ordered (w := w) hmethod hpath horder
    obtain ⟨made, hmade, hout⟩ := g.launcher.calls_stages client order g.coordinator w
    refine ⟨fun h => ?_, made, ?_, fun other => Launcher.launch_mem_iff horder hout other⟩
    · rw [hcalls]
      exact g.launcher.calls_limited order g.coordinator h
    · rw [hcalls]
      exact hmade
  · have hcalls : after.calls = w.calls :=
      World.calls_congr (unrecorded_handle_refused hmethod hpath (not_exists.1 hany))
    refine ⟨fun _ => hcalls, [], by rw [hcalls, List.append_nil], fun other => ?_⟩
    refine ⟨⟨fun hmem => ?_, fun h => absurd ⟨other, h.1⟩ hany⟩, fun hmem => ?_⟩
    · cases hmem
    · cases hmem

/-- The coordinator has a finished job of the block, one of another block, and an idle worker. -/
theorem handle_launch_scripted :
    let script : Script :=
      { load := { totalWorkers := 2, idleWorkers := 1, busyWorkers := 1 }
        jobs := [⟨"job-1", "block-1", "completed", "", 4, [], 0, 0, none⟩,
          ⟨"job-2", "block-2", "running", "", 4, [], 0, 0, none⟩] }
    let host : Host := ⟨.empty, [], "", {}, []⟩
    let g : Gateway Script := .ofSettings {} (Script.coordinator "") host ⟨none, none⟩
      ⟨fun _ => "request", fun _ => "worker"⟩
    let r : Request :=
      { method := "POST"
        target := ⟨none, "", "/api/proof/launch", none⟩
        headers := []
        body := ⟨Bytes.ofText "[\"block-1\", 4, \"in/a.bin\", null]", false⟩
        peer := .v4 [127, 0, 0, 1] }
    (World.run (.initial script host "") (g.handle r)).2.calls =
      [.jobs true, .load, .launch ⟨"block-1", 4, "in/a.bin", none⟩] := by
  intro script host g r
  obtain ⟨-, -, -, made, hcalls, hmade⟩ := handle_launch g (.initial script host "") r rfl rfl
  have horders : r.body.Orders g.launcher.policy ⟨"block-1", 4, "in/a.bin", none⟩ :=
    Body.order?_eq_ok_iff.1 (by decide +kernel)
  have hgoes : g.launcher.GoesOut (clientIdentity r.headers r.peer g.trustProxy)
      ⟨"block-1", 4, "in/a.bin", none⟩ g.coordinator (.initial script host "") :=
    ⟨by rfl, ⟨script.jobs, rfl, by decide⟩, ⟨script.load, rfl, by decide⟩⟩
  rw [hcalls, (hmade _).2 ((hmade _).1.2 ⟨horders, hgoes⟩)]
  rfl

end Gateway

end CoordinatorGateway
