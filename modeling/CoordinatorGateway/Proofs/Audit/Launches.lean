import CoordinatorGateway.Proofs.Audit.Notes

namespace CoordinatorGateway

variable {ε ε' σ α : Type}

inductive LaunchEnd where
  /-- The body is too long, broken off or not readable, or it holds an unfit value. -/
  | rejected
  /-- The client is over its limit. -/
  | limited
  /-- An active job occupies the block. -/
  | conflict
  /-- No worker is idle. -/
  | unavailable
  /-- The coordinator has not answered one of the calls, or has given no job id. -/
  | failed
  | succeeded
  deriving DecidableEq, Repr

def LaunchEnd.eventName : LaunchEnd → String
  | .rejected => "admission.rejected"
  | .limited => "admission.rate_limited"
  | .conflict => "launch.conflict"
  | .unavailable => "launch.unavailable"
  | .failed => "launch.failed"
  | .succeeded => "launch.succeeded"

/-- A call that is not answered has failed. An answer that is not accepted ends the launch, too;
with any other it goes on. -/
def LaunchEnd.ofAnswer (answer : Except Failure α × σ) (accepts : α → Bool) (refused : LaunchEnd)
    (later : σ → LaunchEnd) : LaunchEnd :=
  match answer with
  | (.error _, _) => .failed
  | (.ok a, s) => if accepts a then later s else refused

theorem LaunchEnd.ofAnswer_ok (a : α) (s : σ) (accepts : α → Bool) (refused : LaunchEnd)
    (later : σ → LaunchEnd) :
    ofAnswer (.ok a, s) accepts refused later = if accepts a then later s else refused := rfl

/-- How an order ends that is handed to the coordinator in this state. -/
def LaunchOrder.endsAs (order : LaunchOrder) (c : Coordinator σ) (s : σ) : LaunchEnd :=
  .ofAnswer (c.jobs true s) order.hasFreeBlock .conflict fun s =>
    .ofAnswer (c.load s) hasIdleWorker .unavailable fun s =>
      .ofAnswer (c.launch order s) (fun jobId => jobId != "") .failed fun _ => .succeeded

def Launcher.endsAs (l : Launcher) (client : String) (body : Body) (c : Coordinator σ)
    (w : World σ) : LaunchEnd :=
  match body.order? l.policy with
  | .error _ => .rejected
  | .ok order =>
    match (l.limiter.observe w.store client w.now).1 with
    | .error _ => .limited
    | .ok () => order.endsAs c w.coordinator

/-- The event says for which client a launch has ended so, and why if it has failed. -/
structure AuditEvent.TellsLaunch (x : AuditEvent) (client : String) (e : LaunchEnd)
    (r : Except Failure LaunchedProof) : Prop where
  name : x.name = e.eventName
  client : x.client = some client
  reason : ∀ f, r = .error f → x.reason = some f.message
  succeeded : e = .succeeded ↔ ∃ launched, r = .ok launched

theorem AuditEvent.TellsLaunch.of_error {x : AuditEvent} {client : String} {e : LaunchEnd}
    {f : Failure} (hname : x.name = e.eventName) (hclient : x.client = some client)
    (hreason : x.reason = some f.message) (hend : e ≠ .succeeded) :
    x.TellsLaunch client e (.error f) where
  name := hname
  client := hclient
  reason := by
    rintro _ ⟨⟩
    exact hreason
  succeeded := by
    refine iff_of_false hend ?_
    rintro ⟨_, ⟨⟩⟩

theorem AuditEvent.TellsLaunch.of_ok {x : AuditEvent} {client : String} {launched : LaunchedProof}
    (hname : x.name = LaunchEnd.succeeded.eventName) (hclient : x.client = some client) :
    x.TellsLaunch client .succeeded (.ok launched) where
  name := hname
  client := hclient
  reason := by
    rintro f ⟨⟩
  succeeded := iff_of_true rfl ⟨launched, rfl⟩

theorem LaunchEnd.eventName_injective : Function.Injective eventName := by
  intro e e' h
  cases e <;> cases e' <;> simp_all [eventName]

theorem LaunchRefusal.record_ne_succeeded (refusal : LaunchRefusal) :
    refusal.record.1 ≠ LaunchEnd.succeeded.eventName := by
  cases refusal <;> simp [LaunchRefusal.record, LaunchEnd.eventName]

namespace World

def asked (w : World σ) (call : CoordinatorCall) (s : σ) : World σ :=
  { w with coordinator := s, trace := w.trace ++ [.call call] }

theorem audits_asked (w : World σ) (call : CoordinatorCall) (s : σ) :
    (w.asked call s).audits = w.audits ++ [] := List.filterMap_append

theorem unaudited_asked (w : World σ) (call : CoordinatorCall) (s : σ) :
    w.unaudited.asked call s = (w.asked call s).unaudited := by
  rw [unaudited, unaudited, asked, asked, List.filter_append]
  rfl

end World

namespace Attempt.Silent

theorem mapError {a : Attempt ε σ α} (h : a.Silent) (f : ε → ε') : (a.mapError f).Silent := by
  intro w
  obtain ⟨hsame, xs, hxs, htold⟩ := h w
  rw [World.attempt_mapError, World.attempt_mapError, hsame]
  refine ⟨rfl, xs, hxs, ?_⟩
  rw [htold, told_nothing, told_nothing]

theorem ask (call : CoordinatorCall) (answer : σ → Except Failure α × σ) :
    (World.ask call answer).Silent := by
  intro w
  have hafter (w : World σ) : w.attempt (World.ask call answer) =
      ((answer w.coordinator).1, w.asked call (answer w.coordinator).2) := rfl
  rw [hafter, hafter, World.unaudited_asked]
  exact ⟨rfl, [], World.audits_asked _ _ _, (told_nothing _).symm⟩

end Attempt.Silent

namespace LaunchOrder

variable {order : LaunchOrder} {c : Coordinator σ}

theorem dispatch_silent (order : LaunchOrder) (c : Coordinator σ) : (order.dispatch c).Silent := by
  have hask {α : Type} (call : CoordinatorCall) (answer : σ → Except Failure α × σ) :
      (LaunchOrder.ask call answer).Silent := (Attempt.Silent.ask call answer).mapError _
  apply Attempt.Tells.after (hask _ _)
  intro jobs
  apply Attempt.Tells.after (Attempt.Apart.check _).silent
  intro u
  apply Attempt.Tells.after (hask _ _)
  intro load
  apply Attempt.Tells.after (Attempt.Apart.check _).silent
  intro v
  apply Attempt.Tells.after (hask _ _)
  intro jobId
  exact .ite (.throw rfl) (.pure rfl)

theorem checkBlock_error {jobs : List Job} {refusal : LaunchRefusal}
    (h : order.checkBlock jobs = .error refusal) :
    refusal.record.1 = LaunchEnd.conflict.eventName := by
  rw [checkBlock] at h
  split at h
  · obtain rfl := Except.error.inj h
    rfl
  · cases h

theorem checkLoad_error {load : Load} {refusal : LaunchRefusal}
    (h : checkLoad load = .error refusal) :
    refusal.record.1 = LaunchEnd.unavailable.eventName := by
  rw [checkLoad] at h
  split at h
  · obtain rfl := Except.error.inj h
    rfl
  · split at h
    · obtain rfl := Except.error.inj h
      rfl
    · cases h

def eventName : Except LaunchRefusal String → String
  | .error refusal => refusal.record.1
  | .ok _ => "launch.succeeded"

theorem attempt_ask_bind (w : World σ) (call : CoordinatorCall)
    (answer : σ → Except Failure α × σ) (next : α → Attempt LaunchRefusal σ String) :
    w.attempt (ask call answer >>= next) =
      match answer w.coordinator with
      | (.error f, s) => (.error (.failed f), w.asked call s)
      | (.ok a, s) => (w.asked call s).attempt (next a) := by
  have hask : w.attempt (ask call answer) =
      ((answer w.coordinator).1.mapError .failed, w.asked call (answer w.coordinator).2) := rfl
  rw [World.attempt_bind, hask]
  rcases answer w.coordinator with ⟨f | a, s⟩
  · rfl
  · rfl

theorem eventName_ask_check {test : α → Except LaunchRefusal Unit} {accepts : α → Bool}
    {next : Attempt LaunchRefusal σ String} {e : LaunchEnd} {later : σ → LaunchEnd}
    (htest : ∀ a, (test a).isOk = accepts a)
    (hname : ∀ a refusal, test a = .error refusal → refusal.record.1 = e.eventName)
    (hnext : ∀ w : World σ, eventName (w.attempt next).1 = (later w.coordinator).eventName)
    (call : CoordinatorCall) (answer : σ → Except Failure α × σ) (w : World σ) :
    eventName
        (w.attempt (ask call answer >>= fun a => Attempt.check (test a) >>= fun _ => next)).1 =
      (LaunchEnd.ofAnswer (answer w.coordinator) accepts e later).eventName := by
  rw [attempt_ask_bind]
  rcases answer w.coordinator with ⟨f | a, s⟩
  · rfl
  · rw [LaunchEnd.ofAnswer_ok, ← htest]
    dsimp only
    rw [World.attempt_bind, World.attempt_check]
    cases hend : test a with
    | error refusal => exact hname a refusal hend
    | ok u => exact hnext (w.asked call s)

theorem eventName_dispatch (order : LaunchOrder) (c : Coordinator σ) (w : World σ) :
    eventName (w.attempt (order.dispatch c)).1 = (order.endsAs c w.coordinator).eventName := by
  refine eventName_ask_check order.checkBlock_isOk (fun _ _ => checkBlock_error) (fun w => ?_) _ _ w
  refine eventName_ask_check checkLoad_isOk (fun _ _ => checkLoad_error) (fun w => ?_) _ _ w
  rw [attempt_ask_bind]
  rcases c.launch order w.coordinator with ⟨f | jobId, s⟩
  · rfl
  · have hnone : (jobId != "") = !jobId.isEmpty := by
      rw [Bool.eq_iff_iff]
      simp
    rw [LaunchEnd.ofAnswer_ok, hnone]
    dsimp only
    cases jobId.isEmpty <;> rfl

end LaunchOrder

namespace Launcher

variable (l : Launcher) (client : String) (c : Coordinator σ)

def auditing (enabled : Bool) : Launcher := { l with auditEnabled := enabled }

theorem ofSettings_auditing (settings : Settings) (audit : Bool) :
    ofSettings { settings with auditEnabled := audit } =
      (ofSettings settings).auditing audit := rfl

theorem dispatch_notes (order : LaunchOrder) (w : World σ) :
    World.Notes
      (fun r xs => ∃ x, xs = [x] ∧ x.TellsLaunch client (order.endsAs c w.coordinator) r) w
      (w.attempt ((l.auditing true).dispatch client order c))
      (w.unaudited.attempt ((l.auditing false).dispatch client order c)) := by
  have hcalls := order.dispatch_silent c w
  have hname := order.eventName_dispatch c w
  rw [dispatch, dispatch, World.attempt_bind, World.attempt_bind, World.attempt_mapError,
    World.attempt_mapError, World.attempt_onError, World.attempt_onError]
  generalize w.attempt (order.dispatch c) = first at hcalls hname ⊢
  obtain ⟨result, w'⟩ := first
  obtain ⟨hsame, xs, hxs, rfl⟩ := hcalls
  rw [hsame]
  cases result with
  | error refusal =>
    have haudits : w'.audits = w.audits := hxs.trans (List.append_nil _)
    refine ((World.Notes.record w' _ _).congr haudits).mono ?_
    rintro _ ⟨-, rfl⟩
    refine ⟨_, rfl, .of_error hname rfl rfl fun hend => ?_⟩
    rw [hend] at hname
    exact refusal.record_ne_succeeded hname
  | ok jobId =>
    have haudits : w'.audits = w.audits := hxs.trans (List.append_nil _)
    have hend : LaunchEnd.succeeded = order.endsAs c w.coordinator :=
      LaunchEnd.eventName_injective hname
    refine ((World.Notes.record w' _ _).congr haudits).mono ?_
    rintro _ ⟨-, rfl⟩
    rw [← hend]
    exact ⟨_, rfl, .of_ok rfl rfl⟩

theorem launchBody_notes (body : Body) (w : World σ) :
    World.Notes
      (fun r xs => ∃ x, xs = [x] ∧ x.TellsLaunch client (l.endsAs client body c w) r) w
      (w.attempt ((l.auditing true).launchBody client body.read c))
      (w.unaudited.attempt ((l.auditing false).launchBody client body.read c)) := by
  rw [endsAs]
  cases horder : body.order? l.policy with
  | error f =>
    rw [attempt_launchBody_error (l := l.auditing true) horder,
      attempt_launchBody_error (l := l.auditing false) horder]
    refine (World.Notes.record w _ _).mono ?_
    rintro _ ⟨-, rfl⟩
    exact ⟨_, rfl, .of_error rfl rfl rfl nofun⟩
  | ok order =>
    rw [attempt_launchBody_ok (l := l.auditing true) horder,
      attempt_launchBody_ok (l := l.auditing false) horder]
    dsimp only
    cases hverdict : (l.limiter.observe w.store client w.now).1 with
    | error rejection =>
      rw [World.attempt_bind_error
          (attempt_throttle_error (l := l.auditing true) order hverdict),
        World.attempt_bind_error
          (attempt_throttle_error (l := l.auditing false) (w := w.unaudited) order hverdict)]
      refine World.Notes.congr (v := (Stage.admission l.limiter client).act w) ?_ rfl
      refine (World.Notes.record _ _ _).mono ?_
      rintro _ ⟨-, rfl⟩
      exact ⟨_, rfl, .of_error rfl rfl rfl nofun⟩
    | ok u =>
      rw [World.attempt_bind_ok (attempt_throttle_ok (l := l.auditing true) hverdict),
        World.attempt_bind_ok
          (attempt_throttle_ok (l := l.auditing false) (w := w.unaudited) hverdict)]
      exact (l.dispatch_notes client c order ((Stage.admission l.limiter client).act w)).congr rfl

end Launcher

end CoordinatorGateway
