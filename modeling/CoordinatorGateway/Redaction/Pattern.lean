import CoordinatorGateway.Unicode.Word

namespace CoordinatorGateway

/-- A place in a text: the character before it, if any, and the text after it. -/
structure Cursor where
  before : Option Char
  rest : List Char
  deriving DecidableEq, Repr

def Cursor.atStart (cs : List Char) : Cursor := ⟨none, cs⟩

def Cursor.isWordEdge (p : Cursor) : Bool :=
  p.before.any Unicode.isWord != p.rest.head?.any Unicode.isWord

inductive Pattern where
  | nothing
  | char (admits : Char → Bool)
  | wordEdge
  | textStart
  | seq (first second : Pattern)
  | either (preferred other : Pattern)
  /-- As many times as possible. -/
  | many (each : Pattern)

namespace Pattern

def literal : List Char → Pattern
  | [] => .nothing
  | [c] => .char (· == c)
  | c :: cs => .seq (.char (· == c)) (literal cs)

def oneOrMore (p : Pattern) : Pattern := .seq p (.many p)

def optional (p : Pattern) : Pattern := .either p .nothing

def upTo (p : Pattern) : Nat → Pattern
  | 0 => .nothing
  | n + 1 => .optional (.seq p (upTo p n))

def sequence : List Pattern → Pattern
  | [] => .nothing
  | [p] => p
  | p :: ps => .seq p (sequence ps)

/-- The statement `p.Matches before found after`: in a text where `before` is the last character so
far and `after` all that follows, `p` matches `found`. -/
inductive Matches : Pattern → Option Char → List Char → List Char → Prop where
  | nothing {b r} : Matches .nothing b [] r
  | char {admits c b r} : admits c = true → Matches (.char admits) b [c] r
  | wordEdge {b r} : Cursor.isWordEdge ⟨b, r⟩ = true → Matches .wordEdge b [] r
  | textStart {r} : Matches .textStart none [] r
  | seq {p q b u v r} : Matches p b u (v ++ r) → Matches q (u.getLast?.or b) v r →
      Matches (.seq p q) b (u ++ v) r
  | left {p q b u r} : Matches p b u r → Matches (.either p q) b u r
  | right {p q b u r} : Matches q b u r → Matches (.either p q) b u r
  | manyNil {p b r} : Matches (.many p) b [] r
  | manyCons {p b u v r} : Matches p b u (v ++ r) → Matches (.many p) (u.getLast?.or b) v r →
      Matches (.many p) b (u ++ v) r

/-- Repeats `step` while it can, at most the given number of times, and falls back to fewer
repetitions when `next` fails. -/
def repeatRun {α : Type} (step : (Cursor → Option α) → Cursor → Option α)
    (next : Cursor → Option α) : Nat → Cursor → Option α
  | 0, place => next place
  | n + 1, place =>
    match step (repeatRun step next n) place with
    | some a => some a
    | none => next place

/-- The first answer of `next` over the ends of the matches that start at the place, in order of
preference. -/
def run {α : Type} : Pattern → (Cursor → Option α) → Cursor → Option α
  | .nothing, next, place => next place
  | .char admits, next, ⟨_, rest⟩ =>
    match rest with
    | [] => none
    | c :: cs => if admits c then next ⟨some c, cs⟩ else none
  | .wordEdge, next, place => if place.isWordEdge then next place else none
  | .textStart, next, place => if place.before.isNone then next place else none
  | .seq p q, next, place => p.run (q.run next) place
  | .either p q, next, place =>
    match p.run next place with
    | some a => some a
    | none => q.run next place
  | .many p, next, place => repeatRun p.run next place.rest.length place

end Pattern

/-- Text to be replaced: what `lead` matches stays, what `body` matches after it becomes the
token. -/
structure Rule where
  lead : Pattern
  body : Pattern
  token : List Char

namespace Rule

/-- The preferred match that starts at the place: where its body starts, and where it ends. -/
def find? (rule : Rule) (place : Cursor) : Option (Cursor × Cursor) :=
  rule.lead.run
    (fun bodyStart => rule.body.run (fun stop => some (bodyStart, stop)) bodyStart) place

/-- Replaces the matches from left to right, each search starting where the last match ended. The
first argument bounds the steps and is at least the number of characters left. -/
def replaceFrom (rule : Rule) : Nat → Cursor → List Char
  | 0, place => place.rest
  | n + 1, place =>
    match rule.find? place with
    | some (bodyStart, stop) =>
      place.rest.take (place.rest.length - bodyStart.rest.length) ++ rule.token ++
        rule.replaceFrom n stop
    | none =>
      match place.rest with
      | [] => []
      | c :: cs => c :: rule.replaceFrom n ⟨some c, cs⟩

def apply (rule : Rule) (cs : List Char) : List Char :=
  rule.replaceFrom (cs.length + 1) (.atStart cs)

end Rule

end CoordinatorGateway
