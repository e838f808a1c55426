import Mathlib.Data.List.Basic
import CoordinatorGateway.Coordinator.Remote

namespace CoordinatorGateway

variable {α σ : Type}

def Remote.jobPath : String := servicePath ++ "JobStatus"

/-- Statuses of one code, whose texts either have the same redaction or are of no matter for a
request to the path. -/
structure Status.Alike (path : String) (s t : Status) : Prop where
  code : s.code = t.code
  text : redact s.message = redact t.message ∨ s.code = .cancelled ∨ s.code = .deadlineExceeded ∨
    (s.code = .notFound ∧ path = Remote.jobPath)

structure WireReply.Alike (path : String) (a b : WireReply) : Prop where
  message : a.message = b.message
  status : a.status.Alike path b.status

inductive Link.Alike : Link → Link → Prop where
  | unreachable : Link.Alike .unreachable .unreachable
  | silent : Link.Alike .silent .silent
  | replies {reply other : SentRequest → WireReply}
      (h : ∀ sent, (reply sent).Alike sent.path (other sent)) :
      Link.Alike (.replies reply) (.replies other)
  | late (delay : Duration) {reply other : SentRequest → WireReply}
      (h : ∀ sent, (reply sent).Alike sent.path (other sent)) :
      Link.Alike (.late delay reply) (.late delay other)

namespace Status

theorem detail_congr {s t : Status} (hcode : s.code = t.code)
    (htext : redact s.message = redact t.message) : s.detail = t.detail := by
  unfold detail
  rw [hcode, htext]

theorem failure_congr {s t : Status} (hcode : s.code = t.code) (hdetail : s.detail = t.detail)
    (method : String) (timeout : Duration) :
    s.failure method timeout = t.failure method timeout := by
  unfold failure
  rw [hcode, hdetail]

end Status

/-- Answers to a request to the path that are the same, or that both say that there is no such
job. -/
inductive AnswerAlike (path : String) : Except Failure α → Except Failure α → Prop where
  | same (answer) : AnswerAlike path answer answer
  | unknownJob (text other : String) (h : path = Remote.jobPath) :
      AnswerAlike path (.error (.notFound text)) (.error (.notFound other))

theorem AnswerAlike.eq {path : String} {x y : Except Failure α} (h : AnswerAlike path x y)
    (hpath : path ≠ Remote.jobPath) : x = y := by
  cases h with
  | same answer => rfl
  | unknownJob text other hjob => exact absurd hjob hpath

theorem Status.Alike.answer {path : String} {s t : Status} (h : s.Alike path t) (method : String)
    (timeout : Duration) :
    AnswerAlike path (.error (s.failure method timeout) : Except Failure α)
      (.error (t.failure method timeout)) := by
  rcases h.text with htext | hcode | hcode | ⟨hcode, hpath⟩
  · rw [failure_congr h.code (detail_congr h.code htext)]
    exact .same _
  · simp only [failure, ← h.code, hcode]
    exact .same _
  · simp only [failure, ← h.code, hcode]
    exact .same _
  · simp only [failure, ← h.code, hcode]
    exact .unknownJob _ _ hpath

inductive ResultAlike (path : String) : Except Status α → Except Status α → Prop where
  | same (result) : ResultAlike path result result
  | error {s t : Status} (h : s.Alike path t) : ResultAlike path (.error s) (.error t)

namespace Call

theorem result_atOnce (method : String) (timeout : Duration) (result : Except Status α) :
    (Call.mk method timeout (.atOnce result)).result =
      result.mapError fun status => status.failure method timeout := by
  cases result <;> rfl

theorem result_after (method : String) (timeout delay : Duration) (result : Except Status α) :
    (Call.mk method timeout (.after delay result)).result =
      if delay.nanos ≤ timeout.nanos then
        result.mapError fun status => status.failure method timeout
      else .error (.timeout method timeout) := by
  by_cases h : delay.nanos ≤ timeout.nanos
  · cases result <;> simp only [Call.result, outcome, h, if_true, Outcome.ofResult] <;> rfl
  · simp only [Call.result, outcome, h, if_false]

end Call

theorem ResultAlike.answer {path : String} {x y : Except Status α} (h : ResultAlike path x y)
    (method : String) (timeout : Duration) :
    AnswerAlike path (x.mapError fun status => status.failure method timeout)
      (y.mapError fun status => status.failure method timeout) := by
  cases h with
  | same result => exact .same _
  | error hstatus => exact hstatus.answer method timeout

namespace Remote

theorem decode_alike {path : String} {a b : WireReply} (h : a.Alike path b)
    (reply : Wire.Message α) : ResultAlike path (decode reply a) (decode reply b) := by
  unfold decode
  rw [← h.message, ← h.status.code]
  split
  · exact .error h.status
  · exact .same _

variable (r : Remote) {link other : Link}

theorem call_alike {β : Type} (h : link.Alike other) (method : String) (query : Wire.Message α)
    (reply : Wire.Message β) (a : α) :
    AnswerAlike (servicePath ++ method) (r.call method query reply a link).2
      (r.call method query reply a other).2 := by
  let sent : SentRequest := ⟨servicePath ++ method, r.timeout.timeoutHeader, query.write a⟩
  cases h with
  | unreachable => exact .same _
  | silent => exact .same _
  | replies h =>
    simp only [call, Call.result_atOnce]
    exact (decode_alike (h sent) reply).answer method r.timeout
  | late delay h =>
    simp only [call, Call.result_after]
    split
    · exact (decode_alike (h sent) reply).answer method r.timeout
    · exact .same _

theorem call_congr {β : Type} (h : link.Alike other) (method : String)
    (hpath : servicePath ++ method ≠ jobPath) (query : Wire.Message α) (reply : Wire.Message β)
    (a : α) : (r.call method query reply a link).2 = (r.call method query reply a other).2 :=
  (r.call_alike h method query reply a).eq hpath

theorem info_alike (h : link.Alike other) : (r.info link).2 = (r.info other).2 := by
  simp only [info, r.call_congr h "StatusInfo" (by decide)]

theorem load_alike (h : link.Alike other) : (r.load link).2 = (r.load other).2 := by
  simp only [load, r.call_congr h "SystemStatus" (by decide)]

theorem jobs_alike (activeOnly : Bool) (h : link.Alike other) :
    (r.jobs activeOnly link).2 = (r.jobs activeOnly other).2 := by
  simp only [jobs, r.call_congr h "JobsList" (by decide)]

theorem workers_alike (h : link.Alike other) : (r.workers link).2 = (r.workers other).2 := by
  simp only [workers, r.call_congr h "WorkersList" (by decide)]

theorem launch_alike (order : LaunchOrder) (h : link.Alike other) :
    (r.launch order link).2 = (r.launch order other).2 := by
  simp only [launch, r.call_congr h "LaunchProof" (by decide)]

theorem job_alike (id : String) (h : link.Alike other) :
    (r.job id link).2 = (r.job id other).2 := by
  have hcall := r.call_alike h "JobStatus" Schema.jobQuery Schema.jobReply ⟨id⟩
  simp only [job]
  generalize (r.call "JobStatus" Schema.jobQuery Schema.jobReply ⟨id⟩ link).2 = x at hcall
  generalize (r.call "JobStatus" Schema.jobQuery Schema.jobReply ⟨id⟩ other).2 = y at hcall
  cases hcall with
  | same answer => rfl
  | unknownJob text other hpath => rfl

end Remote

/-- Related states give the same answer, and are related afterwards. -/
def Respects (R : σ → σ → Prop) (ask : σ → α × σ) : Prop :=
  ∀ {s t}, R s t → (ask s).1 = (ask t).1 ∧ R (ask s).2 (ask t).2

structure Coordinator.Respects (c : Coordinator σ) (R : σ → σ → Prop) : Prop where
  inFlight : ∀ {s t}, R s t → c.inFlight s = c.inFlight t
  info : CoordinatorGateway.Respects R c.info
  load : CoordinatorGateway.Respects R c.load
  jobs : ∀ activeOnly, CoordinatorGateway.Respects R (c.jobs activeOnly)
  job : ∀ id, CoordinatorGateway.Respects R (c.job id)
  workers : CoordinatorGateway.Respects R c.workers
  launch : ∀ order, CoordinatorGateway.Respects R (c.launch order)

namespace Remote

/-- Each question takes one link, whatever comes back over it. -/
theorem next_respects {ask : Link → Option SentRequest × Except Failure α}
    (h : ∀ {link other : Link}, link.Alike other → (ask link).2 = (ask other).2) :
    Respects (List.Forall₂ Link.Alike)
      fun links => ((ask (links.head?.getD .unreachable)).2, links.drop 1) := by
  intro links others halike
  cases halike with
  | nil => exact ⟨rfl, .nil⟩
  | cons hlink hrest => exact ⟨h hlink, hrest⟩

theorem coordinator_respects (r : Remote) :
    r.coordinator.Respects (List.Forall₂ Link.Alike) where
  inFlight := fun _ => rfl
  info := next_respects r.info_alike
  load := next_respects r.load_alike
  jobs := fun activeOnly => next_respects (r.jobs_alike activeOnly)
  job := fun id => next_respects (r.job_alike id)
  workers := next_respects r.workers_alike
  launch := fun order => next_respects (r.launch_alike order)

end Remote

end CoordinatorGateway
