import CoordinatorGateway.Proofs.Failures
import CoordinatorGateway.Proofs.RateLimit.Windows
import CoordinatorGateway.Proofs.Settings.Rules
import Mathlib.Order.Bounds.Basic

namespace CoordinatorGateway

theorem Duration.isLeast_secondsRoundedUp (d : Duration) :
    IsLeast {s : Nat | 0 < s ∧ d.nanos ≤ s * 1000000000} d.secondsRoundedUp := by
  rw [secondsRoundedUp, seconds]
  constructor
  · show 0 < _ ∧ d.nanos ≤ _ * 1000000000
    split <;> omega
  · rintro s ⟨hpos, hs⟩
    split <;> omega

theorem Duration.millis64_of_le {d e : Duration} (h : d.nanos ≤ e.nanos) (he : e.millis < 2 ^ 64) :
    d.millis64 = d.millis :=
  Nat.mod_eq_of_lt ((Nat.div_le_div_right h).trans_lt he)

namespace Limiter

variable {l : Limiter}

def refusal (l : Limiter) (delay : Nat) : Rejection := ⟨l.maxRequests, l.window, ⟨delay⟩⟩

theorem verdict_eq_error_iff {now : Nat} {w : Window} {r : Rejection} :
    l.verdict now w = .error r ↔ l.maxRequests < w.count ∧ l.refusal (w.resetAt - now) = r := by
  rw [verdict]
  split
  · next h => simp [h, refusal]
  · next h => simp [h]

/-- No more requests are let through before the window ends. -/
def UsedUp (l : Limiter) (w : Window) : Prop := l.maxRequests < w.count ∧ w.count ≤ maxCount

theorem counted_open {now : Nat} {w : Window} (h : now < w.resetAt) :
    l.counted now (some w) = ⟨min (w.count + 1) maxCount, w.resetAt⟩ := by
  have hcurrent : l.current now (some w) = w := if_pos h
  rw [counted, hcurrent]

theorem UsedUp.counted {w : Window} (hw : l.UsedUp w) {now : Nat} (h : now < w.resetAt) :
    l.UsedUp (l.counted now (some w)) ∧ (l.counted now (some w)).resetAt = w.resetAt := by
  obtain ⟨hmore, hmost⟩ := hw
  rw [counted_open h]
  refine ⟨⟨?_, Nat.min_le_right _ _⟩, rfl⟩
  show l.maxRequests < min (w.count + 1) maxCount
  omega

theorem verdict_counted_closed (hm : 1 ≤ l.maxRequests) {now : Nat} {w : Option Window}
    (h : Window.openAt now w = none) : l.verdict now (l.counted now w) = .ok () := by
  have hcount : (recordAt (now + l.window.nanos) 1).count = 1 := rfl
  rw [l.counted_closed h, verdict, hcount, if_neg (Nat.not_lt.2 hm)]

theorem map_fst_answersFrom (l : Limiter) (w : Option Window) (ts : List Nat) :
    (l.answersFrom w ts).map Prod.fst = ts := by
  induction ts generalizing w with
  | nil => rfl
  | cons t ts ih => rw [answersFrom, List.map_cons, ih]

theorem fst_mem_answersFrom {w : Option Window} {ts : List Nat} {a : Nat × Except Rejection Unit}
    (h : a ∈ l.answersFrom w ts) : a.1 ∈ ts := by
  have hmem := List.mem_map_of_mem (f := Prod.fst) h
  rwa [l.map_fst_answersFrom] at hmem

/-- Once a window is used up, requests are refused until it ends, and the first one after that
is let through. -/
theorem answersFrom_usedUp (hm : 1 ≤ l.maxRequests) {w : Window} (hw : l.UsedUp w)
    {ts : List Nat} (horder : ts.Pairwise (· ≤ ·)) :
    (∀ a ∈ l.answersFrom (some w) ts, a.1 < w.resetAt →
        a.2 = .error (l.refusal (w.resetAt - a.1))) ∧
      ∀ a, (l.answersFrom (some w) ts).find? (fun a => decide (w.resetAt ≤ a.1)) = some a →
        a.2 = .ok () := by
  induction ts generalizing w with
  | nil => exact ⟨nofun, nofun⟩
  | cons t ts ih =>
    obtain ⟨hfirst, hrest⟩ := List.pairwise_cons.1 horder
    rw [answersFrom]
    by_cases ht : t < w.resetAt
    · obtain ⟨hnext, hend⟩ := hw.counted ht
      obtain ⟨hrefused, hadmitted⟩ := ih hnext hrest
      rw [hend] at hrefused hadmitted
      constructor
      · rw [List.forall_mem_cons]
        refine ⟨fun _ => verdict_eq_error_iff.2 ⟨hnext.1, ?_⟩, hrefused⟩
        rw [hend]
      · rw [List.find?_cons_of_neg (by simpa using ht)]
        exact hadmitted
    · rw [Nat.not_lt] at ht
      constructor
      · rw [List.forall_mem_cons]
        refine ⟨fun hlt => absurd hlt (Nat.not_lt.2 ht), fun a ha hlt => ?_⟩
        have hle := hfirst a.1 (fst_mem_answersFrom ha)
        omega
      · rw [List.find?_cons_of_pos (by simpa using ht)]
        rintro a ⟨⟩
        exact verdict_counted_closed hm (Window.openAt_of_le ht)

def EndsInTime (l : Limiter) (w : Option Window) (now : Nat) : Prop :=
  ∀ x ∈ w, x.resetAt ≤ now + l.window.nanos

theorem endsInTime_none (l : Limiter) (now : Nat) : l.EndsInTime none now := by
  rintro x ⟨⟩

theorem EndsInTime.mono {w : Option Window} {now later : Nat} (h : l.EndsInTime w now)
    (hle : now ≤ later) : l.EndsInTime w later :=
  fun x hx => (h x hx).trans (Nat.add_le_add_right hle _)

theorem counted_resetAt {w : Option Window} {now : Nat} (hw : l.EndsInTime w now)
    (hwindow : 0 < l.window.nanos) : now < (l.counted now w).resetAt ∧
      (l.counted now w).resetAt ≤ now + l.window.nanos := by
  cases hopen : Window.openAt now w with
  | none =>
    rw [l.counted_closed hopen, recordAt]
    exact ⟨Nat.lt_add_of_pos_right hwindow, Nat.le_refl _⟩
  | some x =>
    obtain ⟨hx, hlt⟩ := Option.filter_eq_some_iff.1 hopen
    subst hx
    rw [counted_open (of_decide_eq_true hlt)]
    exact ⟨of_decide_eq_true hlt, hw x rfl⟩

theorem exists_record (hwindow : 0 < l.window.nanos) {ts : List Nat} {w : Option Window}
    (horder : ts.Pairwise (· ≤ ·)) (hw : ∀ t ∈ ts, l.EndsInTime w t)
    {before after : List (Nat × Except Rejection Unit)} {t : Nat} {v : Except Rejection Unit}
    (h : l.answersFrom w ts = before ++ (t, v) :: after) :
    ∃ w' later, l.EndsInTime w' t ∧ (t :: later).Pairwise (· ≤ ·) ∧
      v = l.verdict t (l.counted t w') ∧ after = l.answersFrom (some (l.counted t w')) later := by
  induction before generalizing ts w with
  | nil =>
    cases ts with
    | nil => cases h
    | cons u ts =>
      cases h
      exact ⟨w, ts, hw t List.mem_cons_self, horder, rfl, rfl⟩
  | cons a before ih =>
    cases ts with
    | nil => cases h
    | cons u ts =>
      obtain ⟨hfirst, hrest⟩ := List.pairwise_cons.1 horder
      rw [answersFrom, List.cons_append, List.cons_eq_cons] at h
      refine ih hrest (fun t ht => ?_) h.2
      have hnext : l.EndsInTime (some (l.counted u w)) u := by
        rintro x ⟨⟩
        exact (counted_resetAt (hw u List.mem_cons_self) hwindow).2
      exact hnext.mono (hfirst t ht)

end Limiter

/-- What the client of a refusal at the instant can go by, in view of how its later requests are
answered. -/
structure Rejection.Foretells (r : Rejection) (l : Limiter) (now : Nat)
    (later : List (Nat × Except Rejection Unit)) : Prop where
  limit : r.limit = l.maxRequests
  window : r.window = l.window
  positive : 0 < r.retryAfter.nanos
  atMost : r.retryAfter.nanos ≤ l.window.nanos
  refused : ∀ a ∈ later, a.1 < now + r.retryAfter.nanos →
    a.2 = .error { r with retryAfter := ⟨r.retryAfter.nanos - (a.1 - now)⟩ }
  admitted : ∀ a, later.find? (fun a => decide (now + r.retryAfter.nanos ≤ a.1)) = some a →
    a.2 = .ok ()

/-- The response sends its client away for as long as this. -/
structure Response.PutsOff (r : Response) (d : Duration) : Prop where
  status : r.status = 429
  header : ∃ s, r.header? "retry-after" = some (toString s) ∧
    IsLeast {s : Nat | 0 < s ∧ d.nanos ≤ s * 1000000000} s
  body : ∃ members, Json.read (Bytes.ofText r.body) = .ok (.object members) ∧
    ("retry_after_ms", .nat d.millis64) ∈ members

theorem Rejection.response_putsOff (r : Rejection) :
    r.failure.response.PutsOff r.retryAfter := by
  obtain ⟨hbody, -, hstatus, hheader, -⟩ := r.failure.response_readsBack
  refine ⟨hstatus, ⟨_, hheader, r.retryAfter.isLeast_secondsRoundedUp⟩, _, hbody, ?_⟩
  exact List.mem_append_left _ (List.mem_append_right _ (List.mem_singleton_self _))

namespace Limiter

variable {l : Limiter}

theorem answersFrom_foretell (hwindow : 0 < l.window.nanos) (hm : 1 ≤ l.maxRequests)
    {w : Option Window} {now : Nat} (hw : l.EndsInTime w now) {later : List Nat}
    (horder : (now :: later).Pairwise (· ≤ ·)) {r : Rejection}
    (h : l.verdict now (l.counted now w) = .error r) :
    r.Foretells l now (l.answersFrom (some (l.counted now w)) later) := by
  obtain ⟨hmore, rfl⟩ := verdict_eq_error_iff.1 h
  obtain ⟨hlater, horder⟩ := List.pairwise_cons.1 horder
  obtain ⟨hopen, hends⟩ := counted_resetAt hw hwindow
  obtain ⟨hrefused, hadmitted⟩ :=
    answersFrom_usedUp hm (w := l.counted now w) ⟨hmore, Nat.min_le_right _ _⟩ horder
  generalize l.counted now w = counted at *
  have hend : now + (counted.resetAt - now) = counted.resetAt := Nat.add_sub_of_le hopen.le
  refine ⟨rfl, rfl, Nat.sub_pos_of_lt hopen, Nat.sub_le_iff_le_add'.2 hends, ?_, ?_⟩
  · intro a ha hlt
    have hle := hlater a.1 (fst_mem_answersFrom ha)
    have helapsed : counted.resetAt - a.1 = counted.resetAt - now - (a.1 - now) := by omega
    rw [hrefused a ha (hend ▸ hlt), helapsed]
    rfl
  · intro a ha
    rw [refusal, hend] at ha
    exact hadmitted a ha

/-- A refused client that keeps asking is refused until the delay it was told is over, each time
with what is left of it, and then let through. The headers round the delay up, and the body gives
it in whole milliseconds. -/
theorem answers_foretell (l : Limiter) (key : String) (steps : List RateStep)
    (hwindow : 0 < l.window.nanos) (hm : 1 ≤ l.maxRequests)
    (horder : steps.Pairwise fun x y => x.time ≤ y.time)
    {before after : List (Nat × Except Rejection Unit)} {now : Nat} {r : Rejection}
    (h : l.answers key steps = before ++ (now, .error r) :: after) :
    r.Foretells l now after ∧ r.failure.response.PutsOff r.retryAfter ∧
      (l.window.millis < 2 ^ 64 → r.retryAfter.millis64 = r.retryAfter.nanos / 1000000) := by
  rw [l.answers_eq_answersFrom key horder] at h
  have hinstants : (RateStep.requests key steps).Pairwise (· ≤ ·) :=
    List.pairwise_map.2 (horder.filter _)
  obtain ⟨w, later, hw, hlater, hverdict, rfl⟩ :=
    exists_record hwindow hinstants (fun now _ => l.endsInTime_none now) h
  have hforetells := answersFrom_foretell hwindow hm hw hlater hverdict.symm
  exact ⟨hforetells, r.response_putsOff, Duration.millis64_of_le hforetells.atMost⟩

/-- Two refusals in one window, with another client and a sweep in between. -/
theorem answers_foretell_swept :
    let l : Limiter := ⟨.ofMillis 1500, 1⟩
    let steps : List RateStep := [.observe "a" 0, .observe "b" 5, .observe "a" 300000000,
      .observe "b" 300000006, .sweep 400000000, .observe "a" 900000001, .observe "a" 1500000000]
    let r : Rejection := ⟨1, .ofMillis 1500, .ofMillis 1200⟩
    let after : List (Nat × Except Rejection Unit) :=
      [(900000001, .error ⟨1, .ofMillis 1500, ⟨599999999⟩⟩), (1500000000, .ok ())]
    (0 < l.window.nanos ∧ 1 ≤ l.maxRequests ∧ (steps.Pairwise fun x y => x.time ≤ y.time) ∧
      l.answers "a" steps = [(0, .ok ())] ++ (300000000, .error r) :: after) ∧
      r.Foretells l 300000000 after ∧ r.failure.response.PutsOff r.retryAfter ∧
        (l.window.millis < 2 ^ 64 → r.retryAfter.millis64 = r.retryAfter.nanos / 1000000) := by
  intro l steps r after
  have hwindow : 0 < l.window.nanos := by decide
  have hm : 1 ≤ l.maxRequests := by decide
  have horder : steps.Pairwise fun x y => x.time ≤ y.time := by decide
  have h : l.answers "a" steps = [(0, .ok ())] ++ (300000000, .error r) :: after := by
    decide +kernel
  exact ⟨⟨hwindow, hm, horder, h⟩, l.answers_foretell "a" steps hwindow hm horder h⟩

end Limiter

/-- Every limiter that the settings allow has a window and lets someone through. -/
theorem Launcher.limiter_of_load {file : SettingsFile} {env : Environment} {s : Settings}
    (h : Settings.load file env = .ok s) : 0 < (ofSettings s).limiter.window.nanos ∧
      1 ≤ (ofSettings s).limiter.maxRequests ∧ (ofSettings s).limiter.window.millis < 2 ^ 64 := by
  have hnone := (Settings.load_eq_ok_iff.1 h).2
  have hwindow : 0 < s.rateLimit.windowMs :=
    Settings.pos_of_faults hnone "rate_limit.window_ms" (by simp [Settings.positives]) (by decide)
  have hrequests : 0 < s.rateLimit.maxRequests :=
    Settings.pos_of_faults hnone "rate_limit.max_requests" (by simp [Settings.positives])
      (by decide)
  have hlength : s.rateLimit.windowMs ≤ 24 * 60 * 60 * 1000 :=
    Settings.le_day_of_faults hnone "rate_limit.window_ms" (by simp [Settings.durations])
  refine ⟨Nat.mul_pos hwindow (by decide), hrequests, ?_⟩
  show s.rateLimit.windowMs * 1000000 / 1000000 < 2 ^ 64
  omega

end CoordinatorGateway
