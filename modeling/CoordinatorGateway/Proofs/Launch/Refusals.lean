import CoordinatorGateway.Proofs.Launch.Requests

namespace CoordinatorGateway

variable {σ α β : Type}

/-- All that can be wrong by the check is of this class. -/
def FailureCode.Covers (code : FailureCode) (checked : Except Failure α) : Prop :=
  ∀ f, checked = .error f → f.code = code

namespace FailureCode

variable {code : FailureCode}

theorem covers_ok (a : α) : code.Covers (.ok a) := fun _ h => by cases h

theorem covers_error {f : Failure} (h : f.code = code) :
    code.Covers (.error f : Except Failure α) := by
  intro f' hf'
  cases hf'
  exact h

theorem Covers.bind {x : Except Failure α} {next : α → Except Failure β} (h : code.Covers x)
    (hnext : ∀ a, code.Covers (next a)) : code.Covers (x >>= next) := by
  cases x with
  | error f => exact covers_error (h f rfl)
  | ok a => exact hnext a

end FailureCode

open FailureCode (covers_ok covers_error Covers)

theorem Identifier.check_covers (label id : String) :
    FailureCode.invalidArgument.Covers (Identifier.check label id) := by
  rw [Identifier.check]
  split
  · exact covers_ok _
  · exact covers_error rfl

theorem Location.check_covers (path : String) (purpose : Location.Purpose)
    (policy : Location.Policy) :
    FailureCode.invalidArgument.Covers (Location.check path purpose policy) := by
  rw [Location.check]
  split
  · exact covers_ok _
  · exact covers_error rfl

theorem Capacity.ofJson_covers (v : Json) :
    FailureCode.invalidArgument.Covers (Capacity.ofJson v) := by
  rw [Capacity.ofJson.eq_def]
  split
  · exact covers_ok _
  · split
    · exact covers_ok _
    · exact covers_error rfl
  · exact covers_error rfl

theorem Capacity.check_covers (x : Binary64) (max : Nat) :
    FailureCode.invalidArgument.Covers (Capacity.check x max) := by
  rw [Capacity.check]
  split
  · exact covers_error rfl
  · split
    · exact covers_error rfl
    · exact covers_ok _

theorem Body.read_covers (body : Body) : FailureCode.invalidArgument.Covers body.read := by
  rw [Body.read]
  split
  · exact covers_error rfl
  · split
    · exact covers_error rfl
    · exact covers_ok _

namespace LaunchRequest

theorem read_covers (bytes : Bytes) :
    FailureCode.invalidArgument.Covers (LaunchRequest.read bytes) := by
  rw [LaunchRequest.read]
  split
  · exact covers_error rfl
  · exact covers_ok _

theorem checkCapacity_covers (r : LaunchRequest) (policy : OrderPolicy) :
    FailureCode.invalidArgument.Covers (r.checkCapacity policy) := by
  rw [checkCapacity]
  split
  · exact covers_error rfl
  · exact (Capacity.ofJson_covers _).bind fun x => Capacity.check_covers x _

theorem order_covers (r : LaunchRequest) (policy : OrderPolicy) :
    FailureCode.invalidArgument.Covers (r.order policy) := by
  refine (Identifier.check_covers _ _).bind fun _ => ?_
  refine (r.checkCapacity_covers policy).bind fun capacity => ?_
  refine (Location.check_covers _ _ _).bind fun _ => ?_
  split
  · exact (Location.check_covers _ _ _).bind fun _ => covers_ok _
  · exact covers_ok _

end LaunchRequest

theorem Body.order?_covers (body : Body) (policy : OrderPolicy) :
    FailureCode.invalidArgument.Covers (body.order? policy) :=
  (body.read_covers.bind LaunchRequest.read_covers).bind fun r => r.order_covers policy

theorem LaunchOrder.attempt_dispatch_occupied {order : LaunchOrder} {c : Coordinator σ}
    {w : World σ} {jobs : List Job} (hjobs : (c.jobs true w.coordinator).1 = .ok jobs)
    (hoccupied : order.hasFreeBlock jobs = false) :
    ∃ jobId, (w.attempt (order.dispatch c)).1 =
      .error (.blockOccupied order.blockId jobId) := by
  have hask := attempt_ask w (.jobs true) (c.jobs true) order.hasFreeBlock
  rw [hjobs] at hask
  rw [dispatch, World.attempt_bind_ok hask]
  rw [← order.checkBlock_isOk, checkBlock] at hoccupied
  rw [checkBlock]
  split at hoccupied
  · next j hfound =>
    rw [World.attempt_bind_error (World.attempt_check _ _)]
    exact ⟨j.jobId, rfl⟩
  · cases hoccupied

namespace Launcher

variable {l : Launcher} {client : String} {order : LaunchOrder} {c : Coordinator σ} {w : World σ}

theorem attempt_dispatch_error {refusal : LaunchRefusal}
    (h : (w.attempt (order.dispatch c)).1 = .error refusal) :
    (w.attempt (l.dispatch client order c)).1 = .error refusal.failure := by
  rw [dispatch, World.attempt_bind, World.attempt_mapError, World.attempt_onError]
  rcases hend : w.attempt (order.dispatch c) with ⟨result, w'⟩
  rw [hend] at h
  obtain rfl : result = .error refusal := h
  rfl

theorem attempt_launchBody_occupied {body : Body} {jobs : List Job}
    (horder : body.Orders l.policy order) (hjobs : (c.jobs true w.coordinator).1 = .ok jobs)
    (hoccupied : order.hasFreeBlock jobs = false) :
    ∃ f, (w.attempt (l.launchBody client body.read c)).1 = .error f ∧
      f.code = if (l.limiter.observe w.store client w.now).1.isOk then .conflict
        else .rateLimited := by
  rw [attempt_launchBody_ok (Body.order?_eq_ok_iff.2 horder)]
  cases hverdict : (l.limiter.observe w.store client w.now).1 with
  | ok u =>
    obtain ⟨jobId, hrefused⟩ := LaunchOrder.attempt_dispatch_occupied
      (w := (Stage.admission l.limiter client).act w) hjobs hoccupied
    rw [World.attempt_bind_ok (attempt_throttle_ok hverdict), attempt_dispatch_error hrefused]
    exact ⟨_, rfl, rfl⟩
  | error rejection =>
    rw [World.attempt_bind_error (attempt_throttle_error order hverdict)]
    exact ⟨_, rfl, rfl⟩

end Launcher

/-- The response tells the client what went wrong, and of which class it is. -/
structure Response.Tells (r : Response) (f : Failure) : Prop where
  status : r.status = f.code.status
  code : r.header? "x-gateway-error" = some f.code.label
  body : r.body = f.body.render

theorem Response.header?_setHeader_of_ne {name other : String} (h : other ≠ name) (r : Response)
    (value : String) : (r.setHeader other value).header? name = r.header? name := by
  have hkept (x : String × String) :
      decide ((x.1 != other) = true ∧ (x.1 == name) = true) = (x.1 == name) := by
    by_cases hx : x.1 = name
    · simp [hx, h.symm]
    · simp [hx]
  have hadded : [(other, value)].find? (fun x => x.1 == name) = none := by
    simp [h]
  rw [header?, header?, setHeader, List.find?_append, List.find?_filter, hadded, Option.or_none]
  simp only [hkept]

theorem Response.Tells.setHeader {r : Response} {f : Failure} (h : r.Tells f) {name : String}
    (hname : name ≠ "x-gateway-error") (value : String) : (r.setHeader name value).Tells f where
  status := h.status
  code := (Response.header?_setHeader_of_ne hname r value).trans h.code
  body := h.body

theorem Failure.response_tells (f : Failure) : f.response.Tells f := by
  have hplain : ((Response.json f.code.status f.body.render).setHeader "x-gateway-error"
      f.code.label).Tells f := ⟨rfl, rfl, rfl⟩
  rw [Failure.response]
  split
  · exact hplain.setHeader (by decide) _
  · exact hplain

theorem Response.Tells.setHeaders {r : Response} {f : Failure} (h : r.Tells f)
    {headers : List (String × String)} (hheaders : ∀ x ∈ headers, x.1 ≠ "x-gateway-error") :
    (headers.foldl (fun r x => r.setHeader x.1 x.2) r).Tells f := by
  induction headers generalizing r with
  | nil => exact h
  | cons x headers ih =>
    obtain ⟨hx, hheaders⟩ := List.forall_mem_cons.1 hheaders
    exact ih (h.setHeader hx x.2) hheaders

namespace Gateway

theorem decorate_tells {r : Response} {f : Failure} (h : r.Tells f) (id : String)
    (origin : Option String) : (decorate id origin r).Tells f := by
  refine h.setHeaders ?_
  cases origin with
  | none => simp
  | some origin => simp [originHeaders]

variable {g : Gateway σ} {w : World σ} {r : Request}

theorem handle_launch_tells (hmethod : r.method = "POST")
    (hpath : r.target.path = "/api/proof/launch") :
    ∃ w' : World σ, w'.unrecorded = w.unrecorded ∧ ∀ f,
      (w'.attempt (g.launcher.launchBody (clientIdentity r.headers r.peer g.trustProxy)
        r.body.read g.coordinator)).1 = .error f → (w.run (g.handle r)).1.Tells f := by
  obtain ⟨w', hw', id, hdone⟩ := run_handle_launch g w r hmethod hpath
  refine ⟨w', hw', fun f hf => ?_⟩
  rw [hdone, hf]
  exact decorate_tells f.response_tells id _

/-- The client is refused, with an error of this class. -/
def Refuses (g : Gateway σ) (w : World σ) (r : Request) (code : FailureCode) : Prop :=
  ∃ f, f.code = code ∧ (w.run (g.handle r)).1.Tells f

section launch

variable (hmethod : r.method = "POST") (hpath : r.target.path = "/api/proof/launch")

include hmethod hpath

theorem refuses_unfit (h : ∀ order, ¬r.body.Orders g.launcher.policy order) :
    g.Refuses w r .invalidArgument := by
  obtain ⟨w', -, htells⟩ := handle_launch_tells (g := g) (w := w) hmethod hpath
  cases horder : r.body.order? g.launcher.policy with
  | error f =>
    refine ⟨f, r.body.order?_covers _ f horder, htells f ?_⟩
    rw [Launcher.attempt_launchBody_error horder]
  | ok order => exact absurd (Body.order?_eq_ok_iff.1 horder) (h order)

theorem refuses_occupied {order : LaunchOrder} {jobs : List Job}
    (horder : r.body.Orders g.launcher.policy order)
    (hjobs : (g.coordinator.jobs true w.coordinator).1 = .ok jobs)
    (hoccupied : order.hasFreeBlock jobs = false) :
    g.Refuses w r (if (g.launcher.limiter.observe w.store
      (clientIdentity r.headers r.peer g.trustProxy) w.now).1.isOk then .conflict
        else .rateLimited) := by
  obtain ⟨w', hw', htells⟩ := handle_launch_tells (g := g) (w := w) hmethod hpath
  have hstore : w'.store = w.store := (congrArg World.store hw' :)
  have hnow : w'.now = w.now := (congrArg World.now hw' :)
  rw [← World.coordinator_congr hw'] at hjobs
  obtain ⟨f, hend, hcode⟩ := Launcher.attempt_launchBody_occupied horder hjobs hoccupied
  rw [hstore, hnow] at hcode
  exact ⟨f, hcode, htells f hend⟩

end launch

end Gateway

end CoordinatorGateway
