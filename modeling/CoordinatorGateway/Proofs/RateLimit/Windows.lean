import CoordinatorGateway.Proofs.RateLimit.Isolation
import Mathlib.Data.List.TakeWhile

namespace CoordinatorGateway

def heldBy (length start t : Nat) : Bool := decide (t < start + length)

/-- Instants cut into windows of a length. An instant that is not in the window before it opens
the next one. -/
def windows (length : Nat) : List Nat → List (List Nat)
  | [] => []
  | start :: rest =>
    (start :: rest.takeWhile (heldBy length start)) ::
      windows length (rest.dropWhile (heldBy length start))
termination_by instants => instants.length
decreasing_by
  have h : (rest.dropWhile (heldBy length start)).length ≤ rest.length :=
    (List.dropWhile_sublist _).length_le
  simp only [List.length_cons]
  omega

theorem flatten_windows (length : Nat) (ts : List Nat) : (windows length ts).flatten = ts := by
  fun_induction windows length ts with
  | case1 => rfl
  | case2 start rest ih =>
    rw [List.flatten_cons, ih, List.cons_append, List.takeWhile_append_dropWhile]

theorem le_of_mem_dropWhile {length start : Nat} {ts : List Nat} (h : ts.Pairwise (· ≤ ·)) :
    ∀ t ∈ ts.dropWhile (heldBy length start), start + length ≤ t := by
  induction ts with
  | nil => simp
  | cons t ts ih =>
    obtain ⟨hfirst, hrest⟩ := List.pairwise_cons.1 h
    by_cases ht : heldBy length start t = true
    · rw [List.dropWhile_cons_of_pos ht]
      exact ih hrest
    · rw [List.dropWhile_cons_of_neg ht]
      rw [heldBy, decide_eq_true_eq] at ht
      intro u hu
      rcases List.mem_cons.1 hu with rfl | hu
      · omega
      · have hle := hfirst u hu
        omega

theorem lt_of_mem_takeWhile {length start : Nat} (hlength : 0 < length) {ts : List Nat} :
    ∀ t ∈ start :: ts.takeWhile (heldBy length start), t < start + length := by
  intro t ht
  rcases List.mem_cons.1 ht with rfl | ht
  · omega
  · have hheld : heldBy length start t = true := List.mem_takeWhile_imp ht
    exact of_decide_eq_true hheld

def RateStep.requests (key : String) (steps : List RateStep) : List Nat :=
  (steps.filter (RateStep.counts key)).map RateStep.time

namespace Limiter

def answersIn (l : Limiter) (window : List Nat) : List (Nat × Except Rejection Unit) :=
  (window.take l.maxRequests).map (fun now => (now, .ok ())) ++
    (window.drop l.maxRequests).map fun now =>
      (now, .error ⟨l.maxRequests, l.window, ⟨window.headD 0 + l.window.nanos - now⟩⟩)

/-- The answers to the requests of a client in a run of the limiter from the start. -/
def answers (l : Limiter) (key : String) (steps : List RateStep) :
    List (Nat × Except Rejection Unit) :=
  ((RateStore.observations .empty (steps.map fun s => (l, s))).filter fun o => o.key == key).map
    fun o => (o.now, o.verdict)

/-- How many of the answers between the instants let a request through. -/
def admittedBetween (start stop : Nat) (answers : List (Nat × Except Rejection Unit)) : Nat :=
  answers.countP fun a => a.2.isOk && decide (start ≤ a.1) && decide (a.1 < stop)

def answersFrom (l : Limiter) : Option Window → List Nat → List (Nat × Except Rejection Unit)
  | _, [] => []
  | w, now :: rest => (now, l.verdict now (l.counted now w)) ::
      answersFrom l (some (l.counted now w)) rest

theorem eq_observe {key : String} {s : RateStep} (h : s.counts key = true) :
    s = .observe key s.time := by
  cases s with
  | sweep t => cases h
  | observe k t =>
    rw [RateStep.counts_observe, beq_iff_eq] at h
    rw [h]
    rfl

theorem filter_counts (key : String) (steps : List RateStep) :
    steps.filter (RateStep.counts key) = (RateStep.requests key steps).map (.observe key) := by
  rw [RateStep.requests, List.map_map]
  conv => lhs; rw [← List.map_id (steps.filter (RateStep.counts key))]
  apply List.map_congr_left
  intro s hs
  exact eq_observe (List.mem_filter.1 hs).2

theorem observations_requests (l : Limiter) (key : String) (store : RateStore) (ts : List Nat) :
    (store.observations (ts.map fun t => (l, .observe key t))).map (fun o => (o.now, o.verdict)) =
      l.answersFrom (store.get? key) ts := by
  induction ts generalizing store with
  | nil => rfl
  | cons t ts ih =>
    rw [List.map_cons, RateStore.observations_observe, List.map_cons, ih, RateStore.get?_observe,
      if_pos rfl]
    rfl

theorem answers_eq_answersFrom (l : Limiter) (key : String) {steps : List RateStep}
    (h : steps.Pairwise fun x y => x.time ≤ y.time) :
    l.answers key steps = l.answersFrom none (RateStep.requests key steps) := by
  have hs : RateStore.AgreeOn key 0 (.empty : RateStore) .empty := rfl
  have horder : (steps.map fun s => (l, s)).Pairwise fun x y => x.2.time ≤ y.2.time :=
    List.pairwise_map.2 h
  have hfilter : (steps.map fun s => (l, s)).filter (fun x => x.2.counts key) =
      (RateStep.requests key steps).map fun t => (l, .observe key t) := by
    rw [List.filter_map]
    exact (congrArg (List.map _) (filter_counts key steps)).trans (by rw [List.map_map]; rfl)
  rw [answers, RateStore.observations_of_agree hs (fun _ _ => Nat.zero_le _) horder, hfilter,
    observations_requests]
  rfl

def recordAt (stop n : Nat) : Window := ⟨min n maxCount, stop⟩

theorem counted_recordAt (l : Limiter) {now stop : Nat} (h : now < stop) (n : Nat) :
    l.counted now (some (recordAt stop n)) = recordAt stop (n + 1) := by
  have hmin : min (min n maxCount + 1) maxCount = min (n + 1) maxCount := by omega
  have hcurrent : l.current now (some (recordAt stop n)) = recordAt stop n := if_pos h
  rw [counted, hcurrent, recordAt, hmin]
  rfl

theorem counted_closed (l : Limiter) {now : Nat} {w : Option Window}
    (h : Window.openAt now w = none) : l.counted now w = recordAt (now + l.window.nanos) 1 :=
  l.counted_congr (h.trans rfl : Window.openAt now w = Window.openAt now none)

theorem verdict_recordAt (l : Limiter) (h : l.maxRequests < maxCount) (now stop n : Nat) :
    l.verdict now (recordAt stop n) =
      if l.maxRequests < n then .error ⟨l.maxRequests, l.window, ⟨stop - now⟩⟩ else .ok () := by
  have hiff : l.maxRequests < min n maxCount ↔ l.maxRequests < n := by omega
  simp only [verdict, recordAt, hiff]

theorem answersFrom_recordAt (l : Limiter) (h : l.maxRequests < maxCount) {stop : Nat}
    {ts : List Nat} (hts : ∀ t ∈ ts, t < stop) (n : Nat) (rest : List Nat) :
    l.answersFrom (some (recordAt stop n)) (ts ++ rest) =
      (ts.take (l.maxRequests - n)).map (fun now => (now, .ok ())) ++
        (ts.drop (l.maxRequests - n)).map
          (fun now => (now, .error ⟨l.maxRequests, l.window, ⟨stop - now⟩⟩)) ++
        l.answersFrom (some (recordAt stop (n + ts.length))) rest := by
  induction ts generalizing n with
  | nil => simp
  | cons t ts ih =>
    have hrest := ih (fun u hu => hts u (List.mem_cons_of_mem _ hu)) (n + 1)
    have hlen : n + 1 + ts.length = n + (t :: ts).length := by
      rw [List.length_cons]
      omega
    rw [List.cons_append, answersFrom, l.counted_recordAt (hts t List.mem_cons_self),
      l.verdict_recordAt h, hrest, hlen]
    by_cases hn : n < l.maxRequests
    · have hsub : l.maxRequests - n = (l.maxRequests - (n + 1)) + 1 := by omega
      rw [if_neg (by omega), hsub, List.take_succ_cons, List.drop_succ_cons, List.map_cons]
      rfl
    · have hsub : l.maxRequests - n = 0 := by omega
      have hsub' : l.maxRequests - (n + 1) = 0 := by omega
      rw [if_pos (by omega), hsub, hsub', List.take_zero, List.drop_zero, List.take_zero,
        List.drop_zero]
      rfl

theorem answersFrom_windows (l : Limiter) (hw : 0 < l.window.nanos)
    (hm : l.maxRequests < maxCount) (ts : List Nat) (w : Option Window)
    (hclosed : ∀ t ∈ ts.head?, Window.openAt t w = none) :
    l.answersFrom w ts = (windows l.window.nanos ts).flatMap l.answersIn := by
  fun_induction windows l.window.nanos ts generalizing w with
  | case1 => rfl
  | case2 start rest ih =>
    have hfirst : l.counted start w = recordAt (start + l.window.nanos) 1 :=
      l.counted_closed (hclosed start rfl)
    have hopen : l.answersFrom w (start :: rest) =
        l.answersFrom (some (recordAt (start + l.window.nanos) 0)) (start :: rest) := by
      rw [answersFrom, answersFrom, hfirst, l.counted_recordAt (by omega)]
    have hsplit : start :: rest = (start :: rest.takeWhile (heldBy l.window.nanos start)) ++
        rest.dropWhile (heldBy l.window.nanos start) := by
      rw [List.cons_append, List.takeWhile_append_dropWhile]
    -- The window is used up first; the request after it finds it closed.
    rw [hopen, hsplit, l.answersFrom_recordAt hm (lt_of_mem_takeWhile hw), ih, List.flatMap_cons]
    · rfl
    · intro t ht
      have hnot := List.head?_dropWhile_not (heldBy l.window.nanos start) rest
      rw [Option.mem_def.1 ht] at hnot
      exact Window.openAt_of_le (Nat.not_lt.1 (of_decide_eq_false hnot))

theorem map_fst_answersIn (l : Limiter) (window : List Nat) :
    (l.answersIn window).map Prod.fst = window := by
  rw [answersIn, List.map_append, List.map_map, List.map_map]
  exact (congrArg₂ (· ++ ·) (List.map_id _) (List.map_id _)).trans (List.take_append_drop _ _)

theorem fst_mem_answersIn (l : Limiter) {window : List Nat} {a : Nat × Except Rejection Unit}
    (h : a ∈ l.answersIn window) : a.1 ∈ window := by
  have hmem := List.mem_map_of_mem (f := Prod.fst) h
  rwa [l.map_fst_answersIn] at hmem

theorem fst_mem_windows (l : Limiter) {length : Nat} {ts : List Nat}
    {a : Nat × Except Rejection Unit} (h : a ∈ (windows length ts).flatMap l.answersIn) :
    a.1 ∈ ts := by
  obtain ⟨window, hwindow, ha⟩ := List.mem_flatMap.1 h
  rw [← flatten_windows length ts]
  exact List.mem_flatten.2 ⟨window, hwindow, l.fst_mem_answersIn ha⟩

theorem admittedBetween_answersIn (l : Limiter) (start stop : Nat) (window : List Nat) :
    admittedBetween start stop (l.answersIn window) ≤ l.maxRequests := by
  have hrefused : ((window.drop l.maxRequests).map fun now =>
      ((now, .error ⟨l.maxRequests, l.window, ⟨window.headD 0 + l.window.nanos - now⟩⟩) :
        Nat × Except Rejection Unit)).countP
      (fun a => a.2.isOk && decide (start ≤ a.1) && decide (a.1 < stop)) = 0 := by
    rw [List.countP_map, List.countP_eq_zero]
    intro now _ h
    cases h
  rw [admittedBetween, answersIn, List.countP_append, hrefused]
  refine List.countP_le_length.trans ?_
  rw [List.length_map]
  exact List.length_take_le _ _

theorem admittedBetween_append (start stop : Nat) (xs ys : List (Nat × Except Rejection Unit)) :
    admittedBetween start stop (xs ++ ys) =
      admittedBetween start stop xs + admittedBetween start stop ys :=
  List.countP_append

theorem admittedBetween_eq_zero {start stop : Nat} {answers : List (Nat × Except Rejection Unit)}
    (h : ∀ a ∈ answers, a.1 < start ∨ stop ≤ a.1) : admittedBetween start stop answers = 0 := by
  rw [admittedBetween, List.countP_eq_zero]
  intro a ha hin
  simp only [Bool.and_eq_true, decide_eq_true_eq] at hin
  have hout := h a ha
  omega

theorem admittedBetween_of_le (l : Limiter) (start : Nat) {ts : List Nat}
    (horder : ts.Pairwise (· ≤ ·)) (hstart : ∀ t ∈ ts, start ≤ t) :
    admittedBetween start (start + l.window.nanos)
      ((windows l.window.nanos ts).flatMap l.answersIn) ≤ l.maxRequests := by
  cases ts with
  | nil =>
    rw [windows]
    exact Nat.zero_le _
  | cons first rest =>
    have hfirst := hstart first List.mem_cons_self
    have hlater : ∀ a ∈ (windows l.window.nanos
        (rest.dropWhile (heldBy l.window.nanos first))).flatMap l.answersIn,
        a.1 < start ∨ start + l.window.nanos ≤ a.1 := by
      intro a ha
      have hle := le_of_mem_dropWhile (List.pairwise_cons.1 horder).2 a.1 (l.fst_mem_windows ha)
      omega
    rw [windows, List.flatMap_cons, admittedBetween_append, admittedBetween_eq_zero hlater]
    exact l.admittedBetween_answersIn _ _ _

/-- An interval that is as long as a window meets at most two windows. -/
theorem admittedBetween_windows (l : Limiter) (hw : 0 < l.window.nanos) (start : Nat)
    {ts : List Nat} (horder : ts.Pairwise (· ≤ ·)) :
    admittedBetween start (start + l.window.nanos)
      ((windows l.window.nanos ts).flatMap l.answersIn) ≤ 2 * l.maxRequests := by
  fun_induction windows l.window.nanos ts with
  | case1 => exact Nat.zero_le _
  | case2 first rest ih =>
    have hrest := (List.pairwise_cons.1 horder).2
    have hlater := hrest.sublist (List.dropWhile_sublist (heldBy l.window.nanos first))
    rw [List.flatMap_cons, admittedBetween_append]
    by_cases hover : first + l.window.nanos ≤ start
    · have hbefore : ∀ a ∈ l.answersIn (first :: rest.takeWhile (heldBy l.window.nanos first)),
          a.1 < start ∨ start + l.window.nanos ≤ a.1 := by
        intro a ha
        have hlt := lt_of_mem_takeWhile hw a.1 (l.fst_mem_answersIn ha)
        omega
      rw [admittedBetween_eq_zero hbefore, Nat.zero_add]
      exact ih hlater
    · have hfirst := l.admittedBetween_answersIn start (start + l.window.nanos)
        (first :: rest.takeWhile (heldBy l.window.nanos first))
      have hstart : ∀ t ∈ rest.dropWhile (heldBy l.window.nanos first), start ≤ t := by
        intro t ht
        have hle := le_of_mem_dropWhile hrest t ht
        omega
      have hafter := l.admittedBetween_of_le start hlater hstart
      omega

/-- The requests of a client are cut into windows. Each window lets exactly its first requests
through, up to the limit, so an interval as long as a window lets through at most twice as many. -/
theorem answers_eq_windows (l : Limiter) (key : String) (steps : List RateStep)
    (hw : 0 < l.window.nanos) (hm : l.maxRequests < maxCount)
    (horder : steps.Pairwise fun x y => x.time ≤ y.time) :
    l.answers key steps =
        (windows l.window.nanos (RateStep.requests key steps)).flatMap l.answersIn ∧
      ∀ start, admittedBetween start (start + l.window.nanos) (l.answers key steps) ≤
        2 * l.maxRequests := by
  have hanswers : l.answers key steps =
      (windows l.window.nanos (RateStep.requests key steps)).flatMap l.answersIn := by
    rw [l.answers_eq_answersFrom key horder]
    exact l.answersFrom_windows hw hm _ none fun _ _ => rfl
  refine ⟨hanswers, fun start => ?_⟩
  rw [hanswers]
  exact l.admittedBetween_windows hw start (List.pairwise_map.2 (horder.filter _))

/-- Three windows of one client, the second of them swept away, among requests of another one. -/
theorem answers_eq_windows_swept :
    let l : Limiter := ⟨⟨10⟩, 1⟩
    let steps : List RateStep := [.observe "a" 0, .observe "a" 9, .observe "b" 9, .observe "a" 10,
      .observe "a" 19, .sweep 20, .observe "a" 21]
    (0 < l.window.nanos ∧ l.maxRequests < maxCount ∧
      steps.Pairwise fun x y => x.time ≤ y.time) ∧
      l.answers "a" steps =
          (windows l.window.nanos (RateStep.requests "a" steps)).flatMap l.answersIn ∧
        ∀ start, admittedBetween start (start + l.window.nanos) (l.answers "a" steps) ≤
          2 * l.maxRequests := by
  intro l steps
  have hw : 0 < l.window.nanos := by decide
  have hm : l.maxRequests < maxCount := by decide
  have horder : steps.Pairwise fun x y => x.time ≤ y.time := by decide
  exact ⟨⟨hw, hm, horder⟩, l.answers_eq_windows "a" steps hw hm horder⟩

end Limiter

end CoordinatorGateway
