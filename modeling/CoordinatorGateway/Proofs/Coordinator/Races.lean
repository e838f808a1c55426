import Mathlib.Data.List.Induction
import Mathlib.Data.List.Nodup
import Mathlib.Data.List.Perm.Basic
import CoordinatorGateway.Coordinator.Caller

namespace CoordinatorGateway

variable {α : Type}

namespace CallState

theorem settle_pending {outcome : CallState} (h : outcome.isSettled) :
    CallState.pending.settle outcome = (true, outcome) := by
  cases outcome <;> first | rfl | cases h

theorem settle_of_isSettled {s : CallState} (h : s.isSettled) (outcome : CallState) :
    s.settle outcome = (false, s) := by
  simp only [settle, h, Bool.true_or, if_true]

theorem isSettled_eq_false_iff {s : CallState} : s.isSettled = false ↔ s = .pending := by
  cases s <;> decide

end CallState

theorem Outcome.isSettled_state (o : Outcome α) : o.state.isSettled := by
  cases o <;> rfl

theorem Outcome.state_ne_pending (o : Outcome α) : o.state ≠ .pending := by
  cases o <;> exact CallState.noConfusion

/-- The answer that has come by an instant, counted from the start of the call. -/
def Reply.by? (now : Nat) : Reply α → Option (Except Status α)
  | .never => none
  | .atOnce result => some result
  | .after delay result => if delay.nanos ≤ now then some result else none

namespace Call

/-- What the call finds when it looks: the answer comes first, then the limit. -/
def look (c : Call α) (now : Nat) : Option (Outcome α) :=
  match c.reply.by? now with
  | some result => some (.ofResult result)
  | none => if c.timeout.nanos ≤ now then some .timedOut else none

def answer (c : Call α) : Outcome α → Except Failure α
  | .resolved value => .ok value
  | .rejected status => .error (status.failure c.method c.timeout)
  | .timedOut => .error (.timeout c.method c.timeout)

def instants (c : Call α) : List Nat :=
  match c.reply with
  | .never => [c.timeout.nanos]
  | .atOnce _ => []
  | .after delay _ => [delay.nanos, c.timeout.nanos]

theorem result_eq (c : Call α) : c.result = c.answer c.outcome := by
  unfold result answer
  cases c.outcome <;> rfl

theorem duration?_mem_instants {c : Call α} {t : Nat} (h : c.duration? = some t) :
    t ∈ c.instants := by
  obtain ⟨method, timeout, reply⟩ := c
  cases reply with
  | never =>
    cases h
    exact List.mem_singleton_self _
  | atOnce result => cases h
  | after delay result =>
    cases h
    rcases Nat.le_total delay.nanos timeout.nanos with hle | hle
    · rw [Nat.min_eq_left hle]
      exact List.mem_cons_self
    · rw [Nat.min_eq_right hle]
      exact List.mem_cons_of_mem _ (List.mem_singleton_self _)

theorem look_eq_none {c : Call α} {t now : Nat} (h : c.duration? = some t) (hnow : now < t) :
    c.look now = none := by
  obtain ⟨method, timeout, reply⟩ := c
  cases reply with
  | never =>
    cases h
    exact if_neg (Nat.not_le.2 hnow)
  | atOnce result => cases h
  | after delay result =>
    cases h
    obtain ⟨hdelay, htimeout⟩ := Nat.lt_min.1 hnow
    simp only [look, Reply.by?, Nat.not_le.2 hdelay, Nat.not_le.2 htimeout, if_false]

theorem look_eq_outcome {c : Call α} {t : Nat} (h : c.duration? = some t) :
    c.look t = some c.outcome := by
  obtain ⟨method, timeout, reply⟩ := c
  cases reply with
  | never =>
    cases h
    exact if_pos (Nat.le_refl _)
  | atOnce result => cases h
  | after delay result =>
    cases h
    by_cases hle : delay.nanos ≤ timeout.nanos
    · simp only [look, Reply.by?, outcome, Nat.min_eq_left hle, Nat.le_refl, hle, if_true]
    · have hlt : timeout.nanos < delay.nanos := Nat.not_le.1 hle
      simp only [look, Reply.by?, outcome, Nat.min_eq_right (Nat.le_of_lt hlt), Nat.not_le.2 hlt,
        Nat.le_refl, if_true, if_false]

end Call

def CallEvent.finished? : CallEvent → Option Nat
  | .start _ => none
  | .finish place _ => some place

namespace Batch

theorem caller_run (caller : Caller) (events : List CallEvent) :
    (run caller events).1 = events.foldl Caller.step caller := by
  induction events generalizing caller with
  | nil => rfl
  | cons e events ih =>
    cases e with
    | start place => exact ih _
    | finish place state => exact ih _

theorem finishes_run (caller : Caller) (events : List CallEvent) :
    (run caller events).2.map Finish.place = events.filterMap CallEvent.finished? := by
  induction events generalizing caller with
  | nil => rfl
  | cons e events ih =>
    cases e with
    | start place => exact ih _
    | finish place state => exact congrArg (place :: ·) (ih _)

end Batch

/-- A call on its way, with what it answered once it has ended. -/
structure Lane (α : Type) where
  call : Call α
  state : CallState
  answer : Option (Except Failure α)

namespace Lane

def fresh (c : Call α) : Lane α := ⟨c, .pending, none⟩

def settled (c : Call α) (outcome : Outcome α) : Lane α :=
  ⟨c, outcome.state, some (c.answer outcome)⟩

end Lane

/-- Calls side by side, in the order in which they started, and what has happened to them. -/
structure Race (α : Type) where
  lanes : List (Lane α)
  events : List CallEvent

namespace Race

inductive Step (α : Type) where
  | start (c : Call α)
  | look (place now : Nat)

def settle (r : Race α) (place : Nat) (outcome : Outcome α) : Race α :=
  match r.lanes[place]? with
  | none => r
  | some lane =>
    match lane.state.settle outcome.state with
    | (false, _) => r
    | (true, state) =>
      ⟨r.lanes.set place ⟨lane.call, state, some (lane.call.answer outcome)⟩,
        r.events ++ [.finish place state]⟩

def enter (r : Race α) (c : Call α) : Race α :=
  ⟨r.lanes ++ [.fresh c], r.events ++ [.start r.lanes.length]⟩

/-- No timer has fired when a call starts, but its answer may be there. -/
def step (r : Race α) : Step α → Race α
  | .start c =>
    match c.reply with
    | .atOnce result => (r.enter c).settle r.lanes.length (.ofResult result)
    | _ => r.enter c
  | .look place now =>
    match r.lanes[place]?.bind fun lane => lane.call.look now with
    | none => r
    | some outcome => r.settle place outcome

def run (steps : List (Step α)) : Race α := steps.foldl step ⟨[], []⟩

def pending (r : Race α) : Nat := r.lanes.countP fun lane => lane.state = .pending

def timedOut (r : Race α) : Nat := r.lanes.countP fun lane => lane.state = .timedOut

def finishes (r : Race α) : List Nat := r.events.filterMap CallEvent.finished?

def settledAt (r : Race α) (place : Nat) : Prop :=
  ∃ lane, r.lanes[place]? = some lane ∧ lane.state.isSettled

theorem settle_of_settled {r : Race α} {place : Nat} {lane : Lane α}
    (hlane : r.lanes[place]? = some lane) (hsettled : lane.state.isSettled)
    (outcome : Outcome α) : r.settle place outcome = r := by
  simp only [settle, hlane, CallState.settle_of_isSettled hsettled]

theorem settle_cases (r : Race α) (place : Nat) (outcome : Outcome α) :
    (r.settle place outcome = r ∧ ∀ c, r.lanes[place]? ≠ some (.fresh c)) ∨
      ∃ lane, r.lanes[place]? = some lane ∧ lane.state = .pending ∧
        r.settle place outcome = ⟨r.lanes.set place (.settled lane.call outcome),
          r.events ++ [.finish place outcome.state]⟩ := by
  cases hlane : r.lanes[place]? with
  | none =>
    refine .inl ⟨?_, fun c h => nomatch h⟩
    simp only [settle, hlane]
  | some lane =>
    cases hstate : lane.state.isSettled with
    | true =>
      refine .inl ⟨settle_of_settled hlane hstate outcome, fun c h => ?_⟩
      cases h
      cases hstate
    | false =>
      have hpending := CallState.isSettled_eq_false_iff.1 hstate
      refine .inr ⟨lane, rfl, hpending, ?_⟩
      simp only [settle, hlane, hpending, CallState.settle_pending outcome.isSettled_state,
        Lane.settled]

section Counts

variable {r : Race α} {place : Nat} {lane : Lane α} (h : r.lanes[place]? = some lane)
  (hpending : lane.state = .pending) (outcome : Outcome α) (events : List CallEvent)

include h hpending

theorem pending_set : (⟨r.lanes.set place (.settled lane.call outcome), events⟩ : Race α).pending +
    1 = r.pending := by
  obtain ⟨hlt, hget⟩ := List.getElem?_eq_some_iff.1 h
  have hpos : 0 < r.pending :=
    List.countP_pos_iff.2 ⟨lane, List.mem_of_getElem? h, decide_eq_true hpending⟩
  unfold pending at hpos ⊢
  simp only [List.countP_set hlt, hget, hpending, Lane.settled, outcome.state_ne_pending,
    decide_true, decide_false, if_true, Bool.false_eq_true, if_false]
  omega

theorem timedOut_set :
    (⟨r.lanes.set place (.settled lane.call outcome), events⟩ : Race α).timedOut =
      if outcome.state = .timedOut then r.timedOut + 1 else r.timedOut := by
  obtain ⟨hlt, hget⟩ := List.getElem?_eq_some_iff.1 h
  simp only [timedOut, List.countP_set hlt, hget, hpending, Lane.settled, decide_eq_true_eq,
    reduceCtorEq, if_false, Nat.sub_zero]
  split <;> rfl

end Counts

structure Kept (caller : Caller) (r : Race α) : Prop where
  counters : (Batch.run caller r.events).1 =
    ⟨caller.inFlight + r.pending, caller.timeouts + r.timedOut⟩
  once : r.finishes.Nodup
  finished : ∀ place, place ∈ r.finishes ↔ r.settledAt place

variable {caller : Caller} {r : Race α}

theorem kept_empty (caller : Caller) : Kept caller (⟨[], []⟩ : Race α) := by
  refine ⟨rfl, List.nodup_nil, fun place => ⟨fun h => (nomatch h), ?_⟩⟩
  rintro ⟨lane, hlane, -⟩
  cases hlane

theorem Kept.enter (h : Kept caller r) (c : Call α) : Kept caller (r.enter c) := by
  have hfinishes : (r.enter c).finishes = r.finishes := by
    simp only [finishes, Race.enter, List.filterMap_append, List.filterMap_cons,
      List.filterMap_nil, CallEvent.finished?, List.append_nil]
  constructor
  · have hpending : (r.enter c).pending = r.pending + 1 := by
      simp only [pending, Race.enter, List.countP_append]
      rfl
    have htimedOut : (r.enter c).timedOut = r.timedOut := by
      simp only [timedOut, Race.enter, List.countP_append]
      rfl
    have hcounters := h.counters
    rw [Batch.caller_run] at hcounters ⊢
    rw [hpending, htimedOut, Race.enter, List.foldl_append, hcounters]
    rfl
  · rw [hfinishes]
    exact h.once
  · intro place
    rw [hfinishes, h.finished]
    unfold settledAt
    simp only [Race.enter, List.getElem?_append]
    split
    · exact Iff.rfl
    · rename_i hplace
      rw [List.getElem?_eq_none (Nat.not_lt.1 hplace)]
      refine ⟨fun ⟨_, hlane, _⟩ => (nomatch hlane), ?_⟩
      rintro ⟨lane, hlane, hsettled⟩
      obtain rfl : lane = .fresh c :=
        List.mem_singleton.1 (List.mem_of_getElem? hlane)
      cases hsettled

theorem Kept.settle (h : Kept caller r) (place : Nat) (outcome : Outcome α) :
    Kept caller (r.settle place outcome) := by
  rcases r.settle_cases place outcome with ⟨heq, -⟩ | ⟨lane, hlane, hpending, heq⟩
  · rw [heq]
    exact h
  have hopen : place ∉ r.finishes := by
    intro hmem
    obtain ⟨other, hother, hsettled⟩ := (h.finished place).1 hmem
    obtain rfl : lane = other := Option.some.inj (hlane.symm.trans hother)
    rw [hpending] at hsettled
    cases hsettled
  have hfinishes : (r.settle place outcome).finishes = r.finishes ++ [place] := by
    simp only [heq, finishes, List.filterMap_append, List.filterMap_cons, List.filterMap_nil,
      CallEvent.finished?]
  constructor
  · have hcounters := h.counters
    rw [Batch.caller_run, ← pending_set hlane hpending outcome r.events] at hcounters
    rw [heq, Batch.caller_run, List.foldl_append, hcounters, timedOut_set hlane hpending]
    simp only [List.foldl_cons, List.foldl_nil, Caller.step]
    congr 1
    split <;> rfl
  · rw [hfinishes]
    exact List.nodup_append.2 ⟨h.once, List.nodup_singleton _,
      fun a ha b hb => fun hab => hopen (List.mem_singleton.1 hb ▸ hab ▸ ha)⟩
  · intro other
    rw [hfinishes, List.mem_append, h.finished, List.mem_singleton]
    unfold settledAt
    simp only [heq, List.getElem?_set]
    by_cases hother : place = other
    · subst hother
      simp only [(List.getElem?_eq_some_iff.1 hlane).1, if_true, or_true, true_iff]
      exact ⟨_, rfl, outcome.isSettled_state⟩
    · simp only [hother, if_false, Ne.symm hother, or_false]

theorem Kept.step (h : Kept caller r) (s : Step α) : Kept caller (r.step s) := by
  cases s with
  | start c =>
    simp only [Race.step]
    split
    · exact (h.enter c).settle _ _
    · exact h.enter c
  | look place now =>
    simp only [Race.step]
    split
    · exact h
    · exact h.settle _ _

theorem kept_run (caller : Caller) (steps : List (Step α)) : Kept caller (run steps) := by
  induction steps using List.reverseRecOn with
  | nil => exact kept_empty caller
  | append_singleton steps s ih =>
    rw [run, List.foldl_append]
    exact ih.step s

theorem getElem?_settle {place : Nat} {lane : Lane α} (h : r.lanes[place]? = some lane)
    (hsettled : lane.state.isSettled) (other : Nat) (outcome : Outcome α) :
    (r.settle other outcome).lanes[place]? = some lane := by
  by_cases hother : other = place
  · rw [hother, settle_of_settled h hsettled]
    exact h
  · rcases r.settle_cases other outcome with ⟨heq, -⟩ | ⟨lane', -, -, heq⟩
    · rw [heq]
      exact h
    · simp only [heq, List.getElem?_set, hother, if_false, h]

theorem getElem?_enter {place : Nat} {lane : Lane α} (h : r.lanes[place]? = some lane)
    (c : Call α) : (r.enter c).lanes[place]? = some lane := by
  rw [enter, List.getElem?_append_left (List.getElem?_eq_some_iff.1 h).1, h]

theorem getElem?_step {place : Nat} {lane : Lane α} (h : r.lanes[place]? = some lane)
    (hsettled : lane.state.isSettled) (s : Step α) : (r.step s).lanes[place]? = some lane := by
  cases s with
  | start c =>
    simp only [step]
    split
    · exact getElem?_settle (getElem?_enter h c) hsettled _ _
    · exact getElem?_enter h c
  | look other now =>
    simp only [step]
    split
    · exact h
    · exact getElem?_settle h hsettled _ _

theorem getElem?_run {steps : List (Step α)} {place : Nat} {lane : Lane α}
    (h : (run steps).lanes[place]? = some lane) (hsettled : lane.state.isSettled)
    (more : List (Step α)) : (run (steps ++ more)).lanes[place]? = some lane := by
  induction more using List.reverseRecOn with
  | nil => rwa [List.append_nil]
  | append_singleton more s ih =>
    rw [← List.append_assoc, run, List.foldl_append]
    exact getElem?_step ih hsettled s

end Race

def Call.ended (c : Call α) : Lane α := .settled c c.outcome

theorem Call.isSettled_ended (c : Call α) : c.ended.state.isSettled := c.outcome.isSettled_state

namespace Race

/-- The calls start together, and are then woken one at a time, at an instant and a place. -/
def together (calls : List (Call α)) (looks : List (Nat × Nat)) : List (Step α) :=
  calls.map .start ++ looks.map fun (now, place) => .look place now

def lane (looks : List (Nat × Nat)) (place : Nat) (c : Call α) : Lane α :=
  match c.duration? with
  | none => c.ended
  | some t => if (t, place) ∈ looks then c.ended else .fresh c

def startEvents (calls : List (Call α)) : List CallEvent :=
  calls.zipIdx.flatMap fun (c, place) => Batch.startEvents place c

def finishEvent : Nat × Nat × Call α → CallEvent
  | (_, place, c) => .finish place c.outcome.state

theorem mem_timed {calls : List (Call α)} {t place : Nat} {c : Call α} :
    (t, place, c) ∈ Batch.timed calls ↔ calls[place]? = some c ∧ c.duration? = some t := by
  simp only [Batch.timed, List.mem_filterMap, Option.map_eq_some_iff]
  constructor
  · rintro ⟨⟨c', place'⟩, hmem, t', ht, heq⟩
    cases heq
    exact ⟨List.mem_zipIdx_iff_getElem?.1 hmem, ht⟩
  · rintro ⟨hc, ht⟩
    exact ⟨(c, place), List.mem_zipIdx_iff_getElem?.2 hc, t, ht, rfl⟩

theorem step_start (r : Race α) (c : Call α) :
    r.step (.start c) = ⟨r.lanes ++ [lane [] r.lanes.length c],
      r.events ++ Batch.startEvents r.lanes.length c⟩ := by
  obtain ⟨method, timeout, reply⟩ := c
  cases reply with
  | never => rfl
  | after delay result => rfl
  | atOnce result =>
    simp only [step, settle, enter, List.getElem?_concat_length, Lane.fresh,
      CallState.settle_pending (Outcome.isSettled_state _),
      List.set_append_right _ _ (Nat.le_refl _),
      Nat.sub_self, List.set_cons_zero, List.append_assoc]
    rfl

theorem run_start (calls : List (Call α)) :
    run (calls.map .start) = ⟨calls.mapIdx (lane []), startEvents calls⟩ := by
  induction calls using List.reverseRecOn with
  | nil => rfl
  | append_singleton calls c ih =>
    rw [List.map_append, run, List.foldl_append, ← run, ih]
    simp only [List.map_cons, List.map_nil, List.foldl_cons, List.foldl_nil, step_start,
      List.length_mapIdx, List.mapIdx_concat, startEvents, List.zipIdx_append, List.flatMap_append,
      List.zipIdx_cons, List.zipIdx_nil, List.flatMap_cons, List.flatMap_nil, Nat.zero_add,
      List.append_nil]

/-- The calls after the looks, with those that these have ended, in the order in which they
did. -/
structure Punctual (calls : List (Call α)) (looks : List (Nat × Nat)) (r : Race α)
    (ends : List (Nat × Nat × Call α)) : Prop where
  lanes : r.lanes = calls.mapIdx (lane looks)
  events : r.events = startEvents calls ++ ends.map finishEvent
  ordered : (ends.map fun (t, place, _) => (t, place)).Sublist looks
  mem_iff : ∀ e, e ∈ ends ↔ e ∈ Batch.timed calls ∧ (e.1, e.2.1) ∈ looks
  once : ends.Nodup

theorem Punctual.idle {calls : List (Call α)} {looks : List (Nat × Nat)} {r : Race α}
    {ends : List (Nat × Nat × Call α)} (h : Punctual calls looks r ends) {now place : Nat}
    (hidle : ∀ c, calls[place]? = some c → c.duration? = some now → (now, place) ∈ looks) :
    Punctual calls (looks ++ [(now, place)]) r ends := by
  have hmem : ∀ {other t c}, calls[other]? = some c → c.duration? = some t →
      ((t, other) ∈ looks ++ [(now, place)] ↔ (t, other) ∈ looks) := by
    intro other t c hc ht
    rw [List.mem_append, List.mem_singleton]
    refine ⟨fun h => h.elim id fun heq => ?_, .inl⟩
    cases heq
    exact hidle c hc ht
  refine ⟨?_, h.events, h.ordered.trans (List.sublist_append_left _ _), fun e => ?_, h.once⟩
  · rw [h.lanes]
    refine List.ext_getElem? fun other => ?_
    simp only [List.getElem?_mapIdx]
    cases hc : calls[other]? with
    | none => rfl
    | some c =>
      simp only [Option.map_some, lane]
      cases ht : c.duration? with
      | none => rfl
      | some t => simp only [hmem hc ht]
  · obtain ⟨t, other, c⟩ := e
    rw [h.mem_iff]
    refine and_congr_right fun htimed => ?_
    obtain ⟨hc, ht⟩ := mem_timed.1 htimed
    exact (hmem hc ht).symm

theorem Punctual.ends {calls : List (Call α)} {looks : List (Nat × Nat)} {r : Race α}
    {ends : List (Nat × Nat × Call α)} (h : Punctual calls looks r ends) {now place : Nat}
    {c : Call α} (hc : calls[place]? = some c) (hnow : c.duration? = some now)
    (hnew : (now, place) ∉ looks) :
    Punctual calls (looks ++ [(now, place)]) (r.settle place c.outcome)
      (ends ++ [(now, place, c)]) := by
  have hlane : r.lanes[place]? = some (.fresh c) := by
    simp only [h.lanes, List.getElem?_mapIdx, hc, Option.map_some, lane, hnow, hnew, if_false]
  have hsettle : r.settle place c.outcome = ⟨r.lanes.set place c.ended,
      r.events ++ [finishEvent (now, place, c)]⟩ := by
    rcases r.settle_cases place c.outcome with ⟨-, hnone⟩ | ⟨lane, hlane', -, heq⟩
    · exact absurd hlane (hnone c)
    · obtain rfl := Option.some.inj (hlane.symm.trans hlane')
      exact heq
  rw [hsettle]
  refine ⟨?_, ?_, ?_, fun e => ?_, ?_⟩
  · refine List.ext_getElem? fun other => ?_
    simp only [h.lanes, List.getElem?_set, List.getElem?_mapIdx, List.length_mapIdx]
    by_cases hother : place = other
    · subst hother
      simp only [if_true, (List.getElem?_eq_some_iff.1 hc).1, hc, Option.map_some, lane, hnow,
        List.mem_append, List.mem_singleton, or_true]
    · simp only [hother, if_false]
      cases calls[other]? with
      | none => rfl
      | some c' =>
        simp only [Option.map_some, lane, List.mem_append, List.mem_singleton, Prod.mk.injEq,
          Ne.symm hother, and_false, or_false]
  · simp only [h.events, List.map_append, List.append_assoc, List.map_cons, List.map_nil]
  · rw [List.map_append]
    exact h.ordered.append (List.Sublist.refl _)
  · obtain ⟨t, other, c'⟩ := e
    simp only [List.mem_append, List.mem_singleton, h.mem_iff, Prod.mk.injEq, mem_timed]
    constructor
    · rintro (⟨htimed, hlook⟩ | ⟨rfl, rfl, rfl⟩)
      · exact ⟨htimed, .inl hlook⟩
      · exact ⟨⟨hc, hnow⟩, .inr ⟨rfl, rfl⟩⟩
    · rintro ⟨htimed, hlook | ⟨rfl, rfl⟩⟩
      · exact .inl ⟨htimed, hlook⟩
      · exact .inr ⟨rfl, rfl, Option.some.inj (htimed.1.symm.trans hc)⟩
  · refine List.nodup_append.2 ⟨h.once, List.nodup_singleton _, fun a ha b hb => ?_⟩
    rintro rfl
    obtain rfl := List.mem_singleton.1 hb
    exact hnew ((h.mem_iff _).1 ha).2

theorem step_look_of_settled {r : Race α} {place : Nat} {lane : Lane α}
    (hlane : r.lanes[place]? = some lane) (hsettled : lane.state.isSettled) (now : Nat) :
    r.step (.look place now) = r := by
  simp only [step]
  split
  · rfl
  · exact settle_of_settled hlane hsettled _

/-- A call that is woken before its time finds nothing, and once it has ended it is gone. -/
theorem Punctual.look {calls : List (Call α)} {looks : List (Nat × Nat)} {r : Race α}
    {ends : List (Nat × Nat × Call α)} (h : Punctual calls looks r ends) {now place : Nat}
    (hearly : ∀ c t, calls[place]? = some c → c.duration? = some t →
      (t, place) ∈ looks ∨ now ≤ t) :
    ∃ ends, Punctual calls (looks ++ [(now, place)]) (r.step (.look place now)) ends := by
  have hlanes : r.lanes[place]? = calls[place]?.map (lane looks place) := by
    rw [h.lanes, List.getElem?_mapIdx]
  cases hc : calls[place]? with
  | none =>
    have hstep : r.step (.look place now) = r := by
      simp only [step, hlanes, hc, Option.map_none, Option.bind_none]
    rw [hstep]
    exact ⟨ends, h.idle fun c hc' => nomatch hc.symm.trans hc'⟩
  | some c =>
    rw [hc, Option.map_some] at hlanes
    have hidle (hended : c.duration? = some now → (now, place) ∈ looks) :
        ∃ ends, Punctual calls (looks ++ [(now, place)]) r ends := by
      refine ⟨ends, h.idle fun c' hc' => ?_⟩
      obtain rfl := Option.some.inj (hc.symm.trans hc')
      exact hended
    cases ht : c.duration? with
    | none =>
      simp only [lane, ht] at hlanes
      rw [step_look_of_settled hlanes c.isSettled_ended]
      exact hidle fun ht' => nomatch ht.symm.trans ht'
    | some t =>
      by_cases hlook : (t, place) ∈ looks
      · simp only [lane, ht, hlook, if_true] at hlanes
        rw [step_look_of_settled hlanes c.isSettled_ended]
        refine hidle fun ht' => ?_
        cases ht.symm.trans ht'
        exact hlook
      · -- the call is pending, and the look that ends it is this one or still to come
        simp only [lane, ht, hlook, if_false] at hlanes
        rcases Nat.lt_or_eq_of_le ((hearly c t hc ht).resolve_left hlook) with hlt | rfl
        · have hstep : r.step (.look place now) = r := by
            simp only [step, hlanes, Option.bind_some, Lane.fresh, Call.look_eq_none ht hlt]
          rw [hstep]
          refine hidle fun ht' => ?_
          cases ht.symm.trans ht'
          exact absurd hlt (Nat.lt_irrefl _)
        · have hstep : r.step (.look place now) = r.settle place c.outcome := by
            simp only [step, hlanes, Option.bind_some, Lane.fresh, Call.look_eq_outcome ht]
          rw [hstep]
          exact ⟨_, h.ends hc ht hlook⟩

theorem punctual_start (calls : List (Call α)) :
    Punctual calls [] (run (calls.map .start)) [] := by
  rw [run_start]
  refine ⟨rfl, (List.append_nil _).symm, .slnil, fun e => ?_, List.nodup_nil⟩
  simp only [List.not_mem_nil, and_false]

theorem punctual_run {calls : List (Call α)} {looks more : List (Nat × Nat)}
    (hordered : (looks ++ more).Pairwise fun a b => a.1 ≤ b.1)
    (hwoken : ∀ place c, calls[place]? = some c → ∀ t ∈ c.instants, (t, place) ∈ looks ++ more) :
    ∃ ends, Punctual calls looks (run (together calls looks)) ends := by
  induction looks using List.reverseRecOn generalizing more with
  | nil =>
    refine ⟨[], ?_⟩
    rw [together, List.map_nil, List.append_nil]
    exact punctual_start calls
  | append_singleton looks look ih =>
    rw [List.append_assoc] at hordered hwoken
    obtain ⟨ends, h⟩ := ih hordered hwoken
    have hrun : run (together calls (looks ++ [look])) =
        (run (together calls looks)).step (.look look.2 look.1) := by
      simp only [run, together, List.map_append, ← List.append_assoc, List.foldl_append]
      rfl
    rw [hrun]
    refine h.look fun c t hc ht => ?_
    rcases List.mem_append.1 (hwoken _ c hc t (Call.duration?_mem_instants ht)) with hmem | hmem
    · exact .inl hmem
    · rcases List.mem_cons.1 hmem with heq | hmem
      · exact .inr (Nat.le_of_eq (congrArg Prod.fst heq).symm)
      · exact .inr ((List.pairwise_cons.1 (List.pairwise_append.1 hordered).2.1).1 _ hmem)

theorem nodup_timed (calls : List (Call α)) : (Batch.timed calls).Nodup := by
  refine List.Nodup.of_map (fun e => e.2.1) ?_
  have hplaces : (Batch.timed calls).map (fun e => e.2.1) =
      (calls.zipIdx.filter fun e => e.1.duration?.isSome).map Prod.snd := by
    unfold Batch.timed
    induction calls.zipIdx with
    | nil => rfl
    | cons e es ih =>
      obtain ⟨c, place⟩ := e
      cases ht : c.duration? with
      | none => simpa only [List.filterMap_cons, List.filter_cons, ht, Option.map_none,
          Option.isSome_none, Bool.false_eq_true, if_false] using ih
      | some t => simpa only [List.filterMap_cons, List.filter_cons, ht, Option.map_some,
          Option.isSome_some, if_true, List.map_cons, List.cons.injEq, true_and] using ih
  rw [hplaces]
  refine List.Nodup.sublist (List.filter_sublist.map _) ?_
  rw [List.zipIdx_map_snd]
  exact List.nodup_range'

/-- Calls of distinct instants have but one order. -/
theorem eq_mergeSort_timed {calls : List (Call α)} {ends : List (Nat × Nat × Call α)}
    (hdistinct : ((Batch.timed calls).map Prod.fst).Nodup)
    (hperm : ends.Perm (Batch.timed calls)) (hends : ends.Pairwise fun a b => a.1 ≤ b.1) :
    ends = (Batch.timed calls).mergeSort fun a b => decide (a.1 ≤ b.1) := by
  refine List.Perm.eq_of_pairwise (fun a b ha hb hab hba => ?_) hends ?_
    (hperm.trans (List.mergeSort_perm _ _).symm)
  · exact List.inj_on_of_nodup_map hdistinct (hperm.mem_iff.1 ha)
      ((List.mergeSort_perm _ _).mem_iff.1 hb) (Nat.le_antisymm hab hba)
  · refine (List.pairwise_mergeSort (fun a b c hab hbc => ?_) (fun a b => ?_) _).imp
      of_decide_eq_true
    · exact decide_eq_true (Nat.le_trans (of_decide_eq_true hab) (of_decide_eq_true hbc))
    · simpa only [Bool.or_eq_true, decide_eq_true_eq] using Nat.le_total a.1 b.1

theorem punctual_end {calls : List (Call α)} {looks : List (Nat × Nat)}
    (hordered : looks.Pairwise fun a b => a.1 ≤ b.1)
    (hwoken : ∀ place c, calls[place]? = some c → ∀ t ∈ c.instants, (t, place) ∈ looks)
    (hdistinct : ((Batch.timed calls).map Prod.fst).Nodup) :
    run (together calls looks) = ⟨calls.map Call.ended, Batch.events calls⟩ := by
  obtain ⟨ends, h⟩ := punctual_run (List.append_nil looks ▸ hordered)
    (List.append_nil looks ▸ hwoken)
  have hlooks : ∀ {place t c}, calls[place]? = some c → c.duration? = some t →
      (t, place) ∈ looks :=
    fun hc ht => hwoken _ _ hc _ (Call.duration?_mem_instants ht)
  have hlanes : (run (together calls looks)).lanes = calls.map Call.ended := by
    rw [h.lanes]
    refine List.ext_getElem? fun place => ?_
    rw [List.getElem?_mapIdx, List.getElem?_map]
    cases hc : calls[place]? with
    | none => rfl
    | some c =>
      simp only [Option.map_some, lane]
      cases ht : c.duration? with
      | none => rfl
      | some t => simp only [hlooks hc ht, if_true]
  have hperm : ends.Perm (Batch.timed calls) := by
    refine (List.perm_ext_iff_of_nodup h.once (nodup_timed calls)).2 fun e => ?_
    obtain ⟨t, place, c⟩ := e
    refine (h.mem_iff _).trans (and_iff_left_of_imp fun htimed => ?_)
    exact hlooks (mem_timed.1 htimed).1 (mem_timed.1 htimed).2
  have hends : ends.Pairwise fun a b => a.1 ≤ b.1 := by
    have hlooked := hordered.sublist h.ordered
    rwa [List.pairwise_map] at hlooked
  have hevents : (run (together calls looks)).events = Batch.events calls := by
    rw [h.events, eq_mergeSort_timed hdistinct hperm hends]
    rfl
  rw [← hlanes, ← hevents]

end Race

inductive Reply.InTime (limit : Duration) : Reply α → Except Status α → Prop where
  | atOnce (result) : InTime limit (.atOnce result) result
  | after {delay} (result) (h : delay.nanos ≤ limit.nanos) :
    InTime limit (.after delay result) result

/-- What becomes of a call: only its own limit makes it late, though a coordinator that ran into
a limit of its own is answered alike. -/
structure Call.EndsIn (c : Call α) (lane : Lane α) : Prop where
  resolved : ∀ value, c.reply.InTime c.timeout (.ok value) →
    lane.state = .resolved ∧ lane.answer = some (.ok value)
  rejected : ∀ status, c.reply.InTime c.timeout (.error status) →
    lane.state = .rejected ∧ lane.answer = some (.error (status.failure c.method c.timeout))
  timedOut : (∀ result, ¬c.reply.InTime c.timeout result) →
    lane.state = .timedOut ∧ lane.answer = some (.error (.timeout c.method c.timeout))
  deadline : ∀ status, c.reply.InTime c.timeout (.error status) →
    status.code = .deadlineExceeded →
    lane.state = .rejected ∧ lane.answer = some (.error (.timeout c.method c.timeout))
  final : ∀ outcome, lane.state.settle outcome = (false, lane.state)

theorem Call.outcome_of_inTime {c : Call α} {result : Except Status α}
    (h : c.reply.InTime c.timeout result) : c.outcome = .ofResult result := by
  unfold Call.outcome
  generalize c.reply = reply at h
  cases h with
  | atOnce => rfl
  | after _ hle => exact if_pos hle

theorem Call.outcome_of_late {c : Call α}
    (h : ∀ result, ¬c.reply.InTime c.timeout result) : c.outcome = .timedOut := by
  unfold Call.outcome
  generalize c.reply = reply at h
  cases reply with
  | never => rfl
  | atOnce result => exact absurd (.atOnce result) (h result)
  | after delay result => exact if_neg fun hle => h result (.after result hle)

theorem Call.endsIn_ended (c : Call α) : c.EndsIn c.ended := by
  have hrejected : ∀ status, c.reply.InTime c.timeout (.error status) → c.ended.state = .rejected ∧
      c.ended.answer = some (.error (status.failure c.method c.timeout)) := by
    intro status h
    simp only [Call.ended, Lane.settled, Call.outcome_of_inTime h, Outcome.ofResult, Outcome.state,
      Call.answer, and_self]
  refine ⟨fun value h => ?_, hrejected, fun h => ?_, fun status h hcode => ?_,
    CallState.settle_of_isSettled c.isSettled_ended⟩
  · simp only [Call.ended, Lane.settled, Call.outcome_of_inTime h, Outcome.ofResult, Outcome.state,
      Call.answer, and_self]
  · simp only [Call.ended, Lane.settled, Call.outcome_of_late h, Outcome.state, Call.answer,
      and_self]
  · have hfailure : status.failure c.method c.timeout = .timeout c.method c.timeout := by
      simp only [Status.failure, hcode]
    exact hfailure ▸ hrejected status h

namespace Race

/-- Calls that start together and are woken in time, no two of which end at the same instant:
what happens, how each of them ends for good, and how the counters of the caller stand meanwhile
and afterwards. -/
theorem together_ends (caller : Caller) (calls : List (Call α)) (looks : List (Nat × Nat))
    (hordered : looks.Pairwise fun a b => a.1 ≤ b.1)
    (hwoken : ∀ place c, calls[place]? = some c → ∀ t ∈ c.instants, (t, place) ∈ looks)
    (hdistinct : ((Batch.timed calls).map Prod.fst).Nodup) :
    run (together calls looks) = ⟨calls.map Call.ended, Batch.events calls⟩ ∧
      (∀ c ∈ calls, c.EndsIn c.ended ∧ c.ended.state = c.outcome.state ∧
        c.ended.answer = some c.result) ∧
      (∀ (more : List (Step α)) (place : Nat) (c : Call α), calls[place]? = some c →
        (run (together calls looks ++ more)).lanes[place]? = some c.ended) ∧
      ((Batch.run caller (Batch.events calls)).2.map Batch.Finish.place).Perm
        (List.range calls.length) ∧
      (Batch.run caller (Batch.events calls)).1 = ⟨caller.inFlight,
        caller.timeouts + calls.countP fun c => c.ended.state = .timedOut⟩ ∧
      ∀ before, before <+: together calls looks →
        (Batch.run caller (run before).events).1 =
            ⟨caller.inFlight + (run before).pending, caller.timeouts + (run before).timedOut⟩ ∧
          ∀ place, place ∈ (run before).finishes ↔ (run before).settledAt place := by
  have hrun := punctual_end hordered hwoken hdistinct
  have hkept := kept_run caller (together calls looks)
  have hlane : ∀ {place : Nat} {c : Call α}, calls[place]? = some c →
      (run (together calls looks)).lanes[place]? = some c.ended := by
    intro place c hc
    rw [hrun, List.getElem?_map, hc, Option.map_some]
  refine ⟨hrun, fun c _ => ⟨c.endsIn_ended, rfl, congrArg some c.result_eq.symm⟩,
    fun more place c hc => getElem?_run (hlane hc) c.isSettled_ended more, ?_, ?_,
    fun before _ => ⟨(kept_run caller before).counters, (kept_run caller before).finished⟩⟩
  · rw [Batch.finishes_run]
    have honce := hkept.once
    have hfinished := hkept.finished
    rw [hrun] at honce hfinished
    refine (List.perm_ext_iff_of_nodup honce List.nodup_range).2 fun place => ?_
    refine (hfinished place).trans ?_
    rw [List.mem_range]
    constructor
    · rintro ⟨lane, hlane, -⟩
      exact List.length_map Call.ended ▸ (List.getElem?_eq_some_iff.1 hlane).1
    · intro hlt
      exact ⟨_, by rw [List.getElem?_map, List.getElem?_eq_getElem hlt]; rfl,
        Call.isSettled_ended _⟩
  · have hcounters := hkept.counters
    rw [hrun] at hcounters
    rw [hcounters]
    have hpending : (⟨calls.map Call.ended, Batch.events calls⟩ : Race α).pending = 0 := by
      refine List.countP_eq_zero.2 fun lane hmem => ?_
      obtain ⟨c, -, rfl⟩ := List.mem_map.1 hmem
      have hsettled := c.isSettled_ended
      intro hstate
      rw [of_decide_eq_true hstate] at hsettled
      cases hsettled
    rw [hpending, timedOut, List.countP_map]
    rfl

/-- An answer that is there at once, one in time, none at all, and a coordinator that ran into a
limit of its own. -/
theorem together_ends_four :
    (Batch.run ⟨3, 7⟩ (Batch.events [⟨"StatusInfo", ⟨0⟩, .atOnce (.ok 1)⟩,
      ⟨"JobsList", ⟨10⟩, .after ⟨5⟩ (.ok 2)⟩, ⟨"LaunchProof", ⟨7⟩, .never⟩,
      ⟨"JobStatus", ⟨20⟩, .after ⟨3⟩ (.error ⟨.deadlineExceeded, "late"⟩)⟩])).1 = ⟨3, 8⟩ :=
  (together_ends ⟨3, 7⟩
    [⟨"StatusInfo", ⟨0⟩, .atOnce (.ok 1)⟩, ⟨"JobsList", ⟨10⟩, .after ⟨5⟩ (.ok 2)⟩,
      ⟨"LaunchProof", ⟨7⟩, .never⟩,
      ⟨"JobStatus", ⟨20⟩, .after ⟨3⟩ (.error ⟨.deadlineExceeded, "late"⟩)⟩]
    [(3, 3), (5, 1), (7, 2), (10, 1), (20, 3)] (by decide)
    (fun place c hc => by
      match place with
      | 0 => cases hc; decide
      | 1 => cases hc; decide
      | 2 => cases hc; decide
      | 3 => cases hc; decide
      | _ + 4 => cases hc)
    (by decide)).2.2.2.2.1

end Race

end CoordinatorGateway
