import CoordinatorGateway.Proofs.Gateway.Questions
import CoordinatorGateway.Proofs.Launch.Refusals
import CoordinatorGateway.Proofs.Text.Utf8
import CoordinatorGateway.Proofs.Validation.Identifiers

namespace CoordinatorGateway

variable {σ : Type}

namespace Percent

/-- How encoded bytes are read. A percent sign that does not stand before two hexadecimal digits is
read like any other byte. -/
inductive Reads : Bytes → Bytes → Prop where
  | nil : Reads [] []
  | escape {high low b : UInt8} {rest out : Bytes} (h : byte? high low = some b)
    (hrest : Reads rest out) : Reads (37 :: high :: low :: rest) (b :: out)
  | plain {b : UInt8} {rest out : Bytes}
    (h : b = 37 → ∀ high low more, rest = high :: low :: more → byte? high low = none)
    (hrest : Reads rest out) : Reads (b :: rest) (b :: out)

theorem reads_decodeBytes (bytes : Bytes) : Reads bytes (decodeBytes bytes) := by
  fun_induction decodeBytes bytes with
  | case1 high low rest b h ih => exact .escape h ih
  | case2 high low rest h ih =>
    refine .plain (fun _ _ _ _ heq => ?_) ih
    cases heq
    exact h
  | case3 b rest h ih =>
    refine .plain (fun hb high low more heq => ?_) ih
    exact absurd heq (h high low more hb)
  | case4 => exact .nil

theorem Reads.eq {bytes out : Bytes} (h : Reads bytes out) : decodeBytes bytes = out := by
  induction h with
  | nil => rfl
  | escape h hrest ih => rw [decodeBytes, h, ih]
  | @plain b rest out h hrest ih =>
    rw [decodeBytes.eq_def]
    split
    · next high low rest heq =>
      obtain ⟨rfl, rfl⟩ := List.cons.inj heq
      rw [h rfl high low rest rfl, ih]
    · next heq =>
      obtain ⟨rfl, rfl⟩ := List.cons.inj heq
      rw [ih]
    · next heq => cases heq

theorem decode?_eq_some_iff {raw s : String} :
    decode? raw = some s ↔ Reads (Bytes.ofText raw) (Bytes.ofText s) := by
  rw [decode?]
  constructor
  · intro h
    rw [Bytes.ofText_of_text? h]
    exact reads_decodeBytes _
  · intro h
    rw [h.eq, Bytes.text?_ofText]

end Percent

namespace Identifier

def Names (raw id : String) : Prop :=
  Percent.Reads (Bytes.ofText raw) (Bytes.ofText id) ∧ WellFormed id

theorem not_names_empty (id : String) : ¬Names "" id := by
  rintro ⟨hreads, hfit⟩
  obtain rfl : "" = id := Option.some.inj (Percent.decode?_eq_some_iff.2 hreads)
  exact absurd hfit.nonempty (by decide)

end Identifier

theorem pathParameter_eq_ok_iff {raw id : String} :
    pathParameter raw = .ok id ↔ Percent.Reads (Bytes.ofText raw) (Bytes.ofText id) := by
  rw [← Percent.decode?_eq_some_iff, pathParameter]
  cases Percent.decode? raw <;> simp

theorem jobIdOf_eq_ok_iff {raw id : String} : jobIdOf raw = .ok id ↔ Identifier.Names raw id := by
  simp only [jobIdOf, Except.bind_eq_ok_iff, pathParameter_eq_ok_iff, Identifier.check_eq_ok_iff,
    Identifier.fault?_eq_none_iff]
  constructor
  · rintro ⟨_, hreads, _, hfit, ⟨⟩⟩
    exact ⟨hreads, hfit⟩
  · rintro ⟨hreads, hfit⟩
    exact ⟨id, hreads, (), hfit, rfl⟩

theorem pathParameter_covers (raw : String) :
    FailureCode.invalidArgument.Covers (pathParameter raw) := by
  rw [pathParameter]
  split
  · exact FailureCode.covers_ok _
  · exact FailureCode.covers_error rfl

theorem jobIdOf_covers (raw : String) : FailureCode.invalidArgument.Covers (jobIdOf raw) :=
  (pathParameter_covers raw).bind fun _ =>
    (Identifier.check_covers _ _).bind fun _ => FailureCode.covers_ok _

theorem exists_jobIdOf_error {raw : String} (h : ∀ id, ¬Identifier.Names raw id) :
    ∃ f, f.code = .invalidArgument ∧ jobIdOf raw = .error f := by
  cases hid : jobIdOf raw with
  | error f => exact ⟨f, jobIdOf_covers raw f hid, rfl⟩
  | ok id => exact absurd (jobIdOf_eq_ok_iff.1 hid) (h id)

namespace Route

theorem after?_append (start rest : String) : after? start (start ++ rest) = some rest := by
  have hstart : start.toList.isPrefixOf (start ++ rest).toList = true := by
    rw [String.toList_append, List.isPrefixOf_iff_prefix]
    exact List.prefix_append _ _
  rw [after?, Text.stripStart?, if_pos hstart, String.toList_append, List.drop_left,
    Option.map_some, String.ofList_toList]

theorem append_ne {start other : String} (h : after? start other = none) (rest : String) :
    start ++ rest ≠ other := by
  rintro rfl
  rw [after?_append] at h
  cases h

theorem ofGet?_job (raw query : String) : ofGet? ("/api/job/" ++ raw) query = some (.job raw) := by
  rw [ofGet?.eq_def]
  split
  case h_9 => rw [after?_append, Option.map_some]
  all_goals next h => exact absurd h (append_ne (by decide) raw)

theorem cancelled?_append (raw : String) :
    cancelled? ("/api/job/" ++ raw ++ "/cancel") = some raw := by
  have hend : "/cancel".toList.isSuffixOf (raw ++ "/cancel").toList = true := by
    rw [String.toList_append, List.isSuffixOf_iff_suffix]
    exact List.suffix_append _ _
  rw [cancelled?, String.append_assoc, after?_append]
  dsimp only
  rw [Text.stripEnd?, if_pos hend, String.toList_append, List.length_append, Nat.add_sub_cancel,
    List.take_left]
  exact congrArg some String.ofList_toList

theorem ofPost?_cancel (raw : String) :
    ofPost? ("/api/job/" ++ raw ++ "/cancel") = some (.cancelJob raw) := by
  rw [ofPost?.eq_def]
  split
  case h_5 => rw [cancelled?_append]; rfl
  all_goals next h => exact absurd h (by rw [String.append_assoc]; exact append_ne (by decide) _)

theorem ofPost?_stop (raw : String) :
    ofPost? ("/api/worker/stop/" ++ raw) = some (.stopWorker raw) := by
  have hother : ¬"/api/job/".toList.isPrefixOf ("/api/worker/stop/" ++ raw).toList = true := by
    rw [String.toList_append]
    exact Bool.false_ne_true
  have hcancel : cancelled? ("/api/worker/stop/" ++ raw) = none := by
    rw [cancelled?, after?, Text.stripStart?, if_neg hother, Option.map_none]
  rw [ofPost?.eq_def]
  split
  case h_5 => rw [hcancel, after?_append, Option.map_none, Option.none_or, Option.map_some]
  all_goals next h => exact absurd h (append_ne (by decide) _)

end Route

namespace Gateway

variable (g : Gateway σ) {w : World σ} {r : Request}

/-- The client is refused with an error of this class, and nothing is done for it; at most a name
is made up for the request. -/
def Declines (g : Gateway σ) (w : World σ) (r : Request) (code : FailureCode) : Prop :=
  g.Refuses w r code ∧ ((w.run (g.handle r)).2 = w ∨
    (w.run (g.handle r)).2 = { w with madeUp := w.madeUp + 1 })

variable {g}

theorem declines_of_follow {route : Route} (hroute : r.route? = some route) {f : Failure}
    (hend : ∀ (w : World σ) client, w.attempt (g.follow client r.body route) = (.error f, w)) :
    g.Declines w r f.code := by
  have hrun := g.run_handle w r
  rw [g.run_respond_routed _ _ hroute, hend] at hrun
  rw [Declines, Refuses, hrun]
  exact ⟨⟨f, rfl, decorate_tells f.response_tells _ _⟩, g.run_requestId_world w r.headers⟩

theorem trace_attempt_job {raw id : String} (h : Identifier.Names raw id) (w : World σ) :
    (w.attempt (g.job raw)).2.trace = w.trace ++ [.call (.job id)] := by
  have hid : w.attempt (Attempt.check (jobIdOf raw)) = (.ok id, w) := by
    rw [World.attempt_check, jobIdOf_eq_ok_iff.2 h]
  have hask : w.attempt (World.ask (.job id) (g.coordinator.job id)) =
      ((g.coordinator.job id w.coordinator).1,
        { w with coordinator := (g.coordinator.job id w.coordinator).2
                 trace := w.trace ++ [.call (.job id)] }) := rfl
  rw [job, World.attempt_bind_ok hid, World.attempt_bind, hask]
  obtain f | none | job := (g.coordinator.job id w.coordinator).1
  · rfl
  · rfl
  · rfl

theorem trace_handle_job {raw id : String} (hroute : r.route? = some (.job raw))
    (h : Identifier.Names raw id) :
    (w.run (g.handle r)).2.trace = w.trace ++ [.call (.job id)] := by
  have htrace : (w.run (g.requestId r.headers)).2.trace = w.trace := by
    obtain hsame | hnamed := g.run_requestId_world w r.headers
    · rw [hsame]
    · rw [hnamed]
  rw [run_handle, Prod.map_snd, g.run_respond_world _ _ hroute, ← htrace]
  exact trace_attempt_job h _

theorem declines_job {raw : String} (hroute : r.route? = some (.job raw))
    (h : ∀ id, ¬Identifier.Names raw id) : g.Declines w r .invalidArgument := by
  obtain ⟨f, hcode, hid⟩ := exists_jobIdOf_error h
  rw [← hcode]
  refine declines_of_follow hroute fun w client => ?_
  rw [follow, job, World.attempt_bind, World.attempt_check, hid]

theorem trace_handle_job_iff {raw id : String} (hroute : r.route? = some (.job raw)) :
    (w.run (g.handle r)).2.trace = w.trace ++ [.call (.job id)] ↔ Identifier.Names raw id := by
  refine ⟨fun htrace => ?_, trace_handle_job hroute⟩
  by_cases hnames : ∃ other, Identifier.Names raw other
  · obtain ⟨other, hother⟩ := hnames
    rw [trace_handle_job hroute hother, List.append_cancel_left_eq] at htrace
    cases htrace
    exact hother
  · obtain ⟨-, hsame | hnamed⟩ :=
      declines_job (g := g) (w := w) hroute (not_exists.1 hnames)
    · rw [hsame, List.self_eq_append_right] at htrace
      cases htrace
    · rw [hnamed, List.self_eq_append_right] at htrace
      cases htrace

theorem declines_cancelJob {raw id : String} (hroute : r.route? = some (.cancelJob raw))
    (h : Identifier.Names raw id) : g.Declines w r .notImplemented := by
  refine declines_of_follow
    (f := .notImplemented "Job cancellation is not supported by the coordinator yet")
    hroute fun w client => ?_
  have hid : w.attempt (discard (Attempt.check (jobIdOf raw))) = (.ok (), w) := by
    rw [jobIdOf_eq_ok_iff.2 h]
    rfl
  rw [follow, cancelJob, World.attempt_bind_ok hid]
  rfl

theorem declines_cancelJob_unnamed {raw : String} (hroute : r.route? = some (.cancelJob raw))
    (h : ∀ id, ¬Identifier.Names raw id) : g.Declines w r .invalidArgument := by
  obtain ⟨f, hcode, hid⟩ := exists_jobIdOf_error h
  rw [← hcode]
  refine declines_of_follow hroute fun w client => ?_
  rw [follow, cancelJob, hid]
  rfl

theorem declines_stopWorker {raw : String} (hroute : r.route? = some (.stopWorker raw))
    (h : ∀ id, ¬Identifier.Names raw id) : g.Declines w r .invalidArgument := by
  cases hid : pathParameter raw with
  | error f =>
    rw [← pathParameter_covers raw f hid]
    refine declines_of_follow hroute fun w client => ?_
    rw [follow, stopWorker, hid]
    rfl
  | ok id =>
    obtain ⟨fault, hfault⟩ := Identifier.exists_check_error
      (fun hfit => h id ⟨pathParameter_eq_ok_iff.1 hid, hfit⟩) "worker id"
    refine declines_of_follow (f := .invalidArgument fault.message) hroute fun w client => ?_
    rw [follow, stopWorker, hid, World.attempt_bind_ok (World.attempt_check w (.ok id)), supervise,
      Supervisor.stopWorker, hfault]
    rfl

theorem declines_workerProcesses {id : String}
    (hroute : r.route? = some (.workerProcesses (some id))) (h : ¬Identifier.WellFormed id) :
    g.Declines w r .invalidArgument := by
  obtain ⟨fault, hfault⟩ := Identifier.exists_check_error h "worker id"
  refine declines_of_follow (f := .invalidArgument fault.message) hroute fun w client => ?_
  rw [follow, workerProcesses, supervise, Supervisor.workerStatusById, hfault]
  rfl

/-- Identifiers in URLs, on all routes that take one. A job is looked up under the identifier that
the rest of the path stands for, and once; a job is not cancelled. What stands for no identifier is
declined, whatever it is. -/
theorem handle_identifiers (g : Gateway σ) (w : World σ) (r : Request) :
    (∀ raw, r.method = "GET" → r.target.path = "/api/job/" ++ raw →
      (∀ id, (w.run (g.handle r)).2.trace = w.trace ++ [.call (.job id)] ↔
        Identifier.Names raw id) ∧
      ((∀ id, ¬Identifier.Names raw id) → g.Declines w r .invalidArgument)) ∧
    (∀ raw, r.method = "POST" → r.target.path = "/api/job/" ++ raw ++ "/cancel" →
      (∀ id, Identifier.Names raw id → g.Declines w r .notImplemented) ∧
      ((∀ id, ¬Identifier.Names raw id) → g.Declines w r .invalidArgument)) ∧
    (r.method = "POST" → r.target.path = "/api/job/cancel" → g.Declines w r .invalidArgument) ∧
    (∀ raw, r.method = "POST" → r.target.path = "/api/worker/stop/" ++ raw →
      (∀ id, ¬Identifier.Names raw id) → g.Declines w r .invalidArgument) ∧
    (∀ id, r.method = "GET" → r.target.path = "/api/worker/process-status" →
      Query.value? (r.target.query.getD "") "worker_id" = some id → ¬Identifier.WellFormed id →
      g.Declines w r .invalidArgument) := by
  have hfind {method path : String} (hmethod : r.method = method) (hpath : r.target.path = path) :
      r.route? = Route.find? method path (r.target.query.getD "") := by
    rw [← hmethod, ← hpath]
    rfl
  refine ⟨fun raw hmethod hpath => ?_, fun raw hmethod hpath => ?_, fun hmethod hpath => ?_,
    fun raw hmethod hpath h => ?_, fun id hmethod hpath hvalue h => ?_⟩
  · have hroute : r.route? = some (.job raw) := by
      rw [hfind hmethod hpath]
      exact Route.ofGet?_job raw (r.target.query.getD "")
    exact ⟨fun id => trace_handle_job_iff hroute, declines_job hroute⟩
  · have hroute : r.route? = some (.cancelJob raw) := by
      rw [hfind hmethod hpath]
      exact Route.ofPost?_cancel raw
    exact ⟨fun id => declines_cancelJob hroute, declines_cancelJob_unnamed hroute⟩
  · have hroute : r.route? = some (.cancelJob "") := hfind hmethod hpath
    exact declines_cancelJob_unnamed hroute Identifier.not_names_empty
  · have hroute : r.route? = some (.stopWorker raw) := by
      rw [hfind hmethod hpath]
      exact Route.ofPost?_stop raw
    exact declines_stopWorker hroute h
  · have hroute : r.route? = some (.workerProcesses (some id)) := by
      rw [hfind hmethod hpath, ← hvalue]
      rfl
    exact declines_workerProcesses hroute h

/-- An identifier and a reserved word, both of them encoded. -/
theorem handle_identifiers_encoded :
    let g : Gateway Script :=
      { coordinator := Script.coordinator ""
        launcher := .ofSettings {}
        supervisor := .furnished
        corsOrigins := []
        trustProxy := false
        names := .blank }
    let w : World Script := .initial {} (.furnished {}) ""
    let request (path : String) : Request :=
      ⟨"GET", ⟨none, "", path, none⟩, [], ⟨[], false⟩, .v4 [127, 0, 0, 1]⟩
    (w.run (g.handle (request "/api/job/%61-1"))).2.trace = w.trace ++ [.call (.job "a-1")] ∧
      g.Declines w (request "/api/job/nul%6C") .invalidArgument := by
  intro g w request
  have hnames : Identifier.Names "%61-1" "a-1" :=
    ⟨Percent.decode?_eq_some_iff.1 (by decide +kernel), Identifier.fault?_eq_none_iff.1 (by decide)⟩
  have hnone (id : String) : ¬Identifier.Names "nul%6C" id := by
    rintro ⟨hreads, hfit⟩
    have hdecoded : Percent.decode? "nul%6C" = some "null" := by decide +kernel
    obtain rfl : "null" = id :=
      Option.some.inj (hdecoded.symm.trans (Percent.decode?_eq_some_iff.2 hreads))
    exact hfit.free (by decide)
  obtain ⟨hcalled, -⟩ := (g.handle_identifiers w (request "/api/job/%61-1")).1 "%61-1" rfl rfl
  obtain ⟨-, hdeclined⟩ := (g.handle_identifiers w (request "/api/job/nul%6C")).1 "nul%6C" rfl rfl
  exact ⟨(hcalled "a-1").2 hnames, hdeclined hnone⟩

end Gateway

end CoordinatorGateway
