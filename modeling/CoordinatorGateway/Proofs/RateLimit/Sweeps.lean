import CoordinatorGateway.Proofs.RateLimit.Isolation
import CoordinatorGateway.RateLimit.Sweeper
import Mathlib.Algebra.GroupWithZero.Nat
import Mathlib.Data.List.Induction

namespace CoordinatorGateway.Sweeper

/-- What happens while a sweeper runs, and the clock by which windows are judged then. A wait during
which that clock moves on is given as several waits. The sweeper has its turns at any time; with a
wait it has one in any case. -/
inductive Move where
  | event (now : Nat) (e : Event)
  | look (now : Nat)
  | request (now : Nat) (l : Limiter) (key : String)
  deriving DecidableEq, Repr

namespace Move

def clock : Move → Nat
  | .event now _ => now
  | .look now => now
  | .request now _ _ => now

def key? : Move → Option String
  | .request _ _ key => some key
  | _ => none

def message? : Move → Option Bool
  | .event _ (.shutdown stop) => some stop
  | _ => none

def isMessage (m : Move) : Bool := m.message?.isSome

def looks : Move → Bool
  | .event _ (.wait _) => true
  | .look _ => true
  | _ => false

/-- How much time passes on the timer, in nanoseconds. -/
def time : Move → Nat
  | .event _ (.wait time) => time.nanos
  | _ => 0

end Move

def move (interval : Duration) (s : Sweeper × RateStore) : Move → Sweeper × RateStore
  | .event now e => step interval now s e
  | .look _ => (s.1.look, s.2)
  | .request now l key => (s.1, (l.observe s.2 key now).2)

def after (interval : Duration) (s : Sweeper × RateStore) (moves : List Move) :
    Sweeper × RateStore :=
  moves.foldl (move interval) s

def runs (interval : Duration) (s : Sweeper × RateStore) (events : List (Nat × Event)) :
    Sweeper × RateStore :=
  events.foldl (fun s e => run interval e.1 s e.2) s

/-- The time since the last message, or from the beginning if there is none. -/
def sinceMessage (moves : List Move) : Nat :=
  moves.foldl (fun t m => if m.isMessage then 0 else t + m.time) 0

def latest? (moves : List Move) : Option Bool := (moves.filterMap Move.message?).getLast?

/-- The sweeper has had its turn when the latest message said to stop. -/
def Told (moves : List Move) : Prop :=
  ∃ p m q, moves = p ++ m :: q ∧ m.looks = true ∧ latest? p = some true

variable {interval : Duration} {store : RateStore} {s : Sweeper} {m : Move}
  {moves before since p q : List Move} {events : List (Nat × Event)} {key : String} {w : Window}

theorem sinceMessage_concat (p : List Move) (m : Move) :
    sinceMessage (p ++ [m]) = if m.isMessage then 0 else sinceMessage p + m.time := by
  rw [sinceMessage, List.foldl_append]
  rfl

theorem latest?_concat (p : List Move) (m : Move) :
    latest? (p ++ [m]) = m.message?.or (latest? p) := by
  rw [latest?, List.filterMap_append, List.getLast?_append]
  cases hm : m.message? with
  | none => rw [List.filterMap_cons_none hm]; rfl
  | some stop => rw [List.filterMap_cons_some hm]; rfl

theorem Told.append (h : Told p) (q : List Move) : Told (p ++ q) := by
  obtain ⟨x, m, y, rfl, hlooks, hlatest⟩ := h
  exact ⟨x, m, y ++ q, List.append_assoc x (m :: y) q, hlooks, hlatest⟩

theorem told_concat : Told (moves ++ [m]) ↔
    Told moves ∨ m.looks = true ∧ latest? moves = some true := by
  constructor
  · rintro ⟨p, m', q, hsplit, hlooks, hlatest⟩
    rcases List.eq_nil_or_concat q with rfl | ⟨q, e, rfl⟩
    · obtain ⟨rfl, hm⟩ := List.append_inj' hsplit rfl
      obtain rfl := List.head_eq_of_cons_eq hm
      exact .inr ⟨hlooks, hlatest⟩
    · rw [List.concat_eq_append, ← List.cons_append, ← List.append_assoc] at hsplit
      exact .inl ⟨p, m', q, (List.append_inj' hsplit rfl).1, hlooks, hlatest⟩
  · rintro (htold | ⟨hlooks, hlatest⟩)
    · exact htold.append [m]
    · exact ⟨moves, m, [], rfl, hlooks, hlatest⟩

theorem told_concat_of_not_looks (h : m.looks = false) : Told (moves ++ [m]) ↔ Told moves :=
  told_concat.trans (or_iff_left fun hlooks => Bool.false_ne_true (h.symm.trans hlooks.1))

inductive StandsAt (interval : Duration) (moves : List Move) : Sweeper → Prop
  | waiting (hrunning : ¬ Told moves) (hseen : latest? moves ≠ some true) :
      StandsAt interval moves (.running ⟨sinceMessage moves % interval.nanos⟩ none)
  | sent {stop : Bool} (elapsed : Duration) (hrunning : ¬ Told moves)
      (hlatest : latest? moves = some stop) (hsince : sinceMessage moves = 0) :
      StandsAt interval moves (.running elapsed (some stop))
  | ended (htold : Told moves) : StandsAt interval moves .ended

/-- A sweeper that has its turn has ended, or waits with the time since the last message on its
timer. -/
theorem StandsAt.look (h : StandsAt interval moves s) (hlooks : m.looks = true) :
    Told (moves ++ [m]) ∧ s.look = .ended ∨ ¬ Told (moves ++ [m]) ∧ latest? moves ≠ some true ∧
      s.look = .running ⟨sinceMessage moves % interval.nanos⟩ none := by
  rw [told_concat, and_iff_right hlooks]
  cases h with
  | waiting hrunning hseen => exact .inr ⟨not_or.2 ⟨hrunning, hseen⟩, hseen, rfl⟩
  | @sent stop elapsed hrunning hlatest hsince =>
    rw [hlatest, hsince, Nat.zero_mod]
    cases stop with
    | true => exact .inl ⟨.inr rfl, rfl⟩
    | false => exact .inr ⟨not_or.2 ⟨hrunning, nofun⟩, nofun, rfl⟩
  | ended htold => exact .inl ⟨.inl htold, rfl⟩

theorem StandsAt.move (h : StandsAt interval moves s) (store : RateStore) (m : Move) :
    StandsAt interval (moves ++ [m]) (move interval (s, store) m).1 := by
  have hsince := sinceMessage_concat moves m
  have hlatest := latest?_concat moves m
  cases m with
  | event now e =>
    cases e with
    | wait time =>
      change latest? _ = latest? moves at hlatest
      change sinceMessage _ = sinceMessage moves + time.nanos at hsince
      change StandsAt interval _ (s.look.pass interval time)
      rcases h.look (m := .event now (.wait time)) rfl with
        ⟨htold, hlook⟩ | ⟨hrunning, hseen, hlook⟩
      · rw [hlook]
        exact .ended htold
      · rw [hlook, pass, Nat.mod_add_mod, ← hsince]
        exact .waiting hrunning (hlatest ▸ hseen)
    | shutdown stop =>
      change StandsAt interval _ (s.send stop)
      have htold : Told (moves ++ [.event now (.shutdown stop)]) ↔ Told moves :=
        told_concat_of_not_looks rfl
      cases h with
      | waiting hrunning => exact .sent _ (mt htold.1 hrunning) hlatest hsince
      | sent elapsed hrunning => exact .sent elapsed (mt htold.1 hrunning) hlatest hsince
      | ended hended => exact .ended (htold.2 hended)
  | look now =>
    change latest? _ = latest? moves at hlatest
    change sinceMessage _ = sinceMessage moves at hsince
    change StandsAt interval _ s.look
    rcases h.look (m := .look now) rfl with ⟨htold, hlook⟩ | ⟨hrunning, hseen, hlook⟩
    · rw [hlook]
      exact .ended htold
    · rw [hlook, ← hsince]
      exact .waiting hrunning (hlatest ▸ hseen)
  | request now l key =>
    change latest? _ = latest? moves at hlatest
    change sinceMessage _ = sinceMessage moves at hsince
    change StandsAt interval _ s
    have htold : Told (moves ++ [.request now l key]) ↔ Told moves := told_concat_of_not_looks rfl
    cases h with
    | waiting hrunning hseen =>
      rw [← hsince]
      exact .waiting (mt htold.1 hrunning) (hlatest ▸ hseen)
    | sent elapsed hrunning hsent hzero =>
      exact .sent elapsed (mt htold.1 hrunning) (hlatest.trans hsent) (hsince.trans hzero)
    | ended hended => exact .ended (htold.2 hended)

/-- A message to stop is lost when another takes its place before the sweeper has its turn. -/
example : (after ⟨10⟩ (start, .empty) [.event 0 (.shutdown true), .event 0 (.shutdown false),
    .look 0]).1 = start := by decide +kernel

end CoordinatorGateway.Sweeper
