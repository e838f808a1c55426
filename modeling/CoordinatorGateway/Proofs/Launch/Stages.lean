import CoordinatorGateway.Launch.Launcher
import CoordinatorGateway.Proofs.Launch.Orders
import CoordinatorGateway.Proofs.Steps

namespace CoordinatorGateway

variable {σ α β : Type}

def Effect.isAudit : Effect → Bool
  | .audit _ => true
  | _ => false

def Effect.call? : Effect → Option CoordinatorCall
  | .call c => some c
  | _ => none

namespace World

/-- The world without its audit events and its count of made-up names. -/
def unrecorded (w : World σ) : World σ :=
  { w with
    trace := w.trace.filter fun e => !e.isAudit
    madeUp := 0 }

def calls (w : World σ) : List CoordinatorCall := w.trace.filterMap Effect.call?

theorem calls_unrecorded (w : World σ) : w.unrecorded.calls = w.calls := by
  rw [calls, calls, unrecorded, List.filterMap_filter]
  congr 1
  funext e
  cases e <;> rfl

theorem calls_congr {w w' : World σ} (h : w.unrecorded = w'.unrecorded) : w.calls = w'.calls := by
  rw [← calls_unrecorded w, h, calls_unrecorded]

theorem coordinator_congr {w w' : World σ} (h : w.unrecorded = w'.unrecorded) :
    w.coordinator = w'.coordinator := (congrArg World.coordinator h :)

theorem unrecorded_record (w : World σ) (enabled : Bool) (e : AuditEvent) :
    (w.run (record enabled e)).2.unrecorded = w.unrecorded := by
  cases enabled with
  | false => rfl
  | true =>
    change unrecorded { w with trace := w.trace ++ [.audit e] } = w.unrecorded
    simp [unrecorded, Effect.isAudit]

end World

/-- An effect on the world, and whether what it meets with lets the next one happen. -/
structure Stage (σ : Type) where
  act : World σ → World σ
  passes : World σ → Bool

namespace Stage

/-- The stages in order, up to the first that does not pass. -/
def runAll : List (Stage σ) → World σ → World σ
  | [], w => w
  | s :: stages, w => if s.passes w then runAll stages (s.act w) else s.act w

def admission (l : Limiter) (client : String) : Stage σ where
  act w := { w with store := (l.observe w.store client w.now).2 }
  passes w := (l.observe w.store client w.now).1.isOk

/-- The coordinator is asked. It has to answer, and the answer to be accepted. -/
def asking (call : CoordinatorCall) (answer : σ → Except Failure α × σ) (accepts : α → Bool) :
    Stage σ where
  act w :=
    { w with
      coordinator := (answer w.coordinator).2
      trace := w.trace ++ [.call call] }
  passes w := (answer w.coordinator).1.toOption.any accepts

/-- The stage pays no heed to what is recorded. -/
def Unheeding (s : Stage σ) : Prop :=
  ∀ w, s.passes w.unrecorded = s.passes w ∧ (s.act w).unrecorded = s.act w.unrecorded

theorem admission_unheeding (l : Limiter) (client : String) :
    (admission l client : Stage σ).Unheeding := fun _ => ⟨rfl, rfl⟩

theorem asking_unheeding (call : CoordinatorCall) (answer : σ → Except Failure α × σ)
    (accepts : α → Bool) : (asking call answer accepts).Unheeding := by
  intro w
  refine ⟨rfl, ?_⟩
  simp [asking, World.unrecorded, Effect.isAudit]

theorem runAll_unrecorded {stages : List (Stage σ)} (h : ∀ s ∈ stages, s.Unheeding) (w : World σ) :
    (runAll stages w).unrecorded = runAll stages w.unrecorded := by
  induction stages generalizing w with
  | nil => rfl
  | cons s stages ih =>
    obtain ⟨hpass, hact⟩ := h s List.mem_cons_self w
    have ih := ih (fun t ht => h t (List.mem_cons_of_mem s ht)) (s.act w)
    rw [runAll, runAll, hpass, apply_ite World.unrecorded, ih, hact]

theorem admission_passes_iff {l : Limiter} {client : String} {w : World σ} :
    (admission l client).passes w = true ↔ (l.observe w.store client w.now).1 = .ok () := by
  change (l.observe w.store client w.now).1.isOk = true ↔ _
  cases (l.observe w.store client w.now).1 <;> simp [Except.isOk, Except.toBool]

theorem asking_passes_iff {call : CoordinatorCall} {answer : σ → Except Failure α × σ}
    {accepts : α → Bool} {w : World σ} :
    (asking call answer accepts).passes w = true ↔
      ∃ a, (answer w.coordinator).1 = .ok a ∧ accepts a = true := by
  change (answer w.coordinator).1.toOption.any accepts = true ↔ _
  cases (answer w.coordinator).1 <;> simp [Except.toOption]

theorem calls_asking (call : CoordinatorCall) (answer : σ → Except Failure α × σ)
    (accepts : α → Bool) (w : World σ) :
    ((asking call answer accepts).act w).calls = w.calls ++ [call] := by
  simp [asking, World.calls, Effect.call?]

end Stage

namespace LaunchOrder

def hasFreeBlock (order : LaunchOrder) (jobs : List Job) : Bool :=
  decide (∀ j ∈ jobs, ¬(j.blockId = order.blockId ∧ (j.state = "created" ∨ j.state = "running")))

def hasIdleWorker (load : Load) : Bool := decide (0 < load.totalWorkers ∧ 0 < load.idleWorkers)

theorem checkBlock_isOk (order : LaunchOrder) (jobs : List Job) :
    (order.checkBlock jobs).isOk = order.hasFreeBlock jobs := by
  have hoccupies (j : Job) : (j.blockId == order.blockId && j.isActive) = true ↔
      j.blockId = order.blockId ∧ (j.state = "created" ∨ j.state = "running") := by
    simp [Job.isActive]
  rw [checkBlock, hasFreeBlock]
  cases h : jobs.find? fun j => j.blockId == order.blockId && j.isActive with
  | none =>
    rw [List.find?_eq_none] at h
    symm
    refine decide_eq_true fun j hj hoccupied => ?_
    exact h j hj ((hoccupies j).2 hoccupied)
  | some j =>
    symm
    have hj := List.find?_some h
    refine decide_eq_false fun hfree => ?_
    exact hfree j (List.mem_of_find?_eq_some h) ((hoccupies j).1 hj)

theorem checkLoad_isOk (load : Load) : (checkLoad load).isOk = hasIdleWorker load := by
  rw [checkLoad, hasIdleWorker]
  split
  · next h => simp [h, Except.isOk, Except.toBool]
  · next h =>
    split
    · next h' => simp [h', Except.isOk, Except.toBool]
    · next h' => simp [Nat.pos_of_ne_zero h, Nat.pos_of_ne_zero h', Except.isOk, Except.toBool]

/-- The calls of an order, each with what it takes for the next one to be made. -/
def stages (order : LaunchOrder) (c : Coordinator σ) : List (Stage σ) :=
  [.asking (.jobs true) (c.jobs true) order.hasFreeBlock, .asking .load c.load hasIdleWorker,
    .asking (.launch order) (c.launch order) fun _ => true]

theorem attempt_ask (w : World σ) (call : CoordinatorCall) (answer : σ → Except Failure α × σ)
    (accepts : α → Bool) :
    w.attempt (ask call answer) =
      ((answer w.coordinator).1.mapError .failed, (Stage.asking call answer accepts).act w) := rfl

/-- A question whose answer is tested is a stage. -/
theorem attempt_ask_check {call : CoordinatorCall} {answer : σ → Except Failure α × σ}
    {test : α → Except LaunchRefusal Unit} {accepts : α → Bool} {next : Attempt LaunchRefusal σ β}
    {stages : List (Stage σ)} (htest : ∀ a, (test a).isOk = accepts a)
    (hnext : ∀ w : World σ, (w.attempt next).2 = Stage.runAll stages w) (w : World σ) :
    (w.attempt (ask call answer >>= fun a => Attempt.check (test a) >>= fun _ => next)).2 =
      Stage.runAll (.asking call answer accepts :: stages) w := by
  have hask := attempt_ask w call answer accepts
  rw [Stage.runAll]
  cases hanswer : (answer w.coordinator).1 with
  | error e =>
    have hfails : (Stage.asking call answer accepts).passes w = false := by
      simp [Stage.asking, hanswer, Except.toOption]
    rw [hanswer] at hask
    rw [World.attempt_bind_error hask, if_neg (by simp [hfails])]
  | ok a =>
    have hpass : (Stage.asking call answer accepts).passes w = (test a).isOk := by
      simp [Stage.asking, hanswer, Except.toOption, htest]
    rw [hanswer] at hask
    rw [World.attempt_bind_ok hask, hpass]
    cases htested : test a with
    | error e =>
      rw [World.attempt_bind_error (World.attempt_check _ _)]
      rfl
    | ok u =>
      rw [World.attempt_bind_ok (World.attempt_check _ _)]
      exact hnext _

theorem attempt_launch (order : LaunchOrder) (c : Coordinator σ) (w : World σ) :
    (w.attempt (do
      let jobId ← ask (.launch order) (c.launch order)
      if jobId.isEmpty then throw .noJobId
      return jobId : Attempt LaunchRefusal σ String)).2 =
      Stage.runAll [.asking (.launch order) (c.launch order) fun _ => true] w := by
  have hask := attempt_ask w (.launch order) (c.launch order) fun _ => true
  have hrun (s : Stage σ) : Stage.runAll [s] w = s.act w := by
    rw [Stage.runAll, Stage.runAll, ite_self]
  rw [hrun]
  cases hanswer : (c.launch order w.coordinator).1 with
  | error e =>
    rw [hanswer] at hask
    rw [World.attempt_bind_error hask]
  | ok jobId =>
    rw [hanswer] at hask
    rw [World.attempt_bind_ok hask]
    split <;> rfl

theorem attempt_dispatch (order : LaunchOrder) (c : Coordinator σ) (w : World σ) :
    (w.attempt (order.dispatch c)).2 = Stage.runAll (order.stages c) w := by
  refine attempt_ask_check order.checkBlock_isOk (attempt_ask_check checkLoad_isOk ?_) w
  exact attempt_launch order c

end LaunchOrder

namespace Launcher

variable {l : Launcher} {client : String} {order : LaunchOrder} {c : Coordinator σ}

/-- What an order goes through, from the limit of its client to the coordinator. -/
def stages (l : Launcher) (client : String) (order : LaunchOrder) (c : Coordinator σ) :
    List (Stage σ) :=
  .admission l.limiter client :: order.stages c

theorem stages_unheeding (l : Launcher) (client : String) (order : LaunchOrder)
    (c : Coordinator σ) : ∀ s ∈ l.stages client order c, s.Unheeding := by
  intro s hs
  simp only [stages, LaunchOrder.stages, List.mem_cons, List.not_mem_nil, or_false] at hs
  rcases hs with rfl | rfl | rfl | rfl
  · exact Stage.admission_unheeding l.limiter client
  · exact Stage.asking_unheeding _ _ _
  · exact Stage.asking_unheeding _ _ _
  · exact Stage.asking_unheeding _ _ _

theorem attempt_observe (l : Launcher) (client : String) (w : World σ) :
    w.attempt (Attempt.surely (l.observe client) : Attempt Failure σ _) =
      (.ok (l.limiter.observe w.store client w.now).1,
        (Stage.admission l.limiter client).act w) := rfl

theorem attempt_throttle_ok {w : World σ}
    (h : (l.limiter.observe w.store client w.now).1 = .ok ()) :
    w.attempt (l.throttle client order) =
      (.ok (), (Stage.admission l.limiter client).act w) := by
  rw [throttle, World.attempt_bind_ok (l.attempt_observe client w), h, World.attempt_onError]
  rfl

theorem attempt_throttle_error {w : World σ} {rejection : Rejection} (order : LaunchOrder)
    (h : (l.limiter.observe w.store client w.now).1 = .error rejection) :
    w.attempt (l.throttle client order) =
      (.error rejection.failure, (((Stage.admission l.limiter client).act w).run
        (l.record client "admission.rate_limited" .rejected (some rejection.failure.message)
          [("block_id", .string order.blockId)])).2) := by
  rw [throttle, World.attempt_bind_ok (l.attempt_observe client w), h, World.attempt_onError]
  rfl

theorem attempt_dispatch (w : World σ) :
    (w.attempt (l.dispatch client order c)).2.unrecorded =
      (Stage.runAll (order.stages c) w).unrecorded := by
  rw [← order.attempt_dispatch c w, dispatch, World.attempt_bind, World.attempt_mapError,
    World.attempt_onError]
  obtain ⟨e | jobId, w'⟩ := w.attempt (order.dispatch c)
  · exact World.unrecorded_record w' _ _
  · exact World.unrecorded_record w' _ _

theorem attempt_admitted (w : World σ) :
    (w.attempt (l.throttle client order >>= fun _ => l.dispatch client order c)).2.unrecorded =
      (Stage.runAll (l.stages client order c) w).unrecorded := by
  rw [stages, Stage.runAll]
  cases h : (l.limiter.observe w.store client w.now).1 with
  | ok u =>
    have hpass : (Stage.admission l.limiter client).passes w = true :=
      Stage.admission_passes_iff.2 h
    rw [World.attempt_bind_ok (attempt_throttle_ok h), attempt_dispatch, if_pos hpass]
  | error rejection =>
    have hpass : ¬(Stage.admission l.limiter client).passes w = true := by
      rw [Stage.admission_passes_iff, h]
      intro hok
      cases hok
    rw [World.attempt_bind_error (attempt_throttle_error order h), if_neg hpass]
    exact World.unrecorded_record _ _ _

theorem attempt_launchBody_error {body : Body} {f : Failure}
    (h : body.order? l.policy = .error f) (client : String) (c : Coordinator σ) (w : World σ) :
    w.attempt (l.launchBody client body.read c) = (.error f, (w.run (l.reject client f)).2) := by
  rw [Body.order?] at h
  rw [launchBody, World.attempt_bind, World.attempt_onError, World.attempt_check]
  cases hread : body.read.bind LaunchRequest.read with
  | error e =>
    rw [hread] at h
    obtain rfl := Except.error.inj h
    rfl
  | ok r =>
    -- A readable request, but its values are not fit.
    rw [hread] at h
    change w.attempt (l.launch client r c) = _
    rw [launch, World.attempt_bind, World.attempt_onError, World.attempt_check,
      show r.order l.policy = .error f from h]

theorem attempt_launchBody_ok {body : Body} (h : body.order? l.policy = .ok order)
    (client : String) (c : Coordinator σ) (w : World σ) :
    w.attempt (l.launchBody client body.read c) =
      w.attempt (l.throttle client order >>= fun _ => l.dispatch client order c) := by
  obtain ⟨r, hread, horder⟩ := Except.bind_eq_ok_iff.1 h
  rw [launchBody, World.attempt_bind, World.attempt_onError, World.attempt_check, hread]
  change w.attempt (l.launch client r c) = _
  rw [launch, World.attempt_bind, World.attempt_onError, World.attempt_check, horder]

theorem attempt_launchBody_refused {body : Body} (h : ∀ order, ¬body.Orders l.policy order)
    (client : String) (c : Coordinator σ) (w : World σ) :
    (w.attempt (l.launchBody client body.read c)).2.unrecorded = w.unrecorded := by
  cases horder : body.order? l.policy with
  | error f =>
    rw [attempt_launchBody_error horder client c w]
    exact World.unrecorded_record w _ _
  | ok order => exact absurd (Body.order?_eq_ok_iff.1 horder) (h order)

theorem attempt_launchBody_ordered {body : Body} (h : body.Orders l.policy order)
    (client : String) (c : Coordinator σ) (w : World σ) :
    (w.attempt (l.launchBody client body.read c)).2.unrecorded =
      (Stage.runAll (l.stages client order c) w).unrecorded := by
  rw [attempt_launchBody_ok (Body.order?_eq_ok_iff.2 h)]
  exact attempt_admitted w

end Launcher

end CoordinatorGateway
