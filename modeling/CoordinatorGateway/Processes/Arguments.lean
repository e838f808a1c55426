namespace CoordinatorGateway

namespace Words

inductive Mode where
  /-- Between words. -/
  | between
  /-- After a backslash between words. -/
  | betweenBackslash
  | plain
  | plainBackslash
  | single
  | double
  | doubleBackslash
  | comment
  deriving DecidableEq, Repr

def isSeparator (c : Char) : Bool := c == '\t' || c == ' ' || c == '\n'

/-- Whether a backslash between double quotes takes away this character's meaning. -/
def isEscapable (c : Char) : Bool := ['$', '\x60', '"', '\\'].contains c

/-- The words so far, and the characters of the unfinished one, all in reverse. -/
structure State where
  mode : Mode
  word : List Char
  words : List (List Char)

namespace State

def enter (s : State) (mode : Mode) : State := { s with mode }

def add (s : State) (mode : Mode) (c : Char) : State := ⟨mode, c :: s.word, s.words⟩

def cut (s : State) (mode : Mode) : State := ⟨mode, [], s.word.reverse :: s.words⟩

def step (s : State) (c : Char) : State :=
  match s.mode with
  | .between =>
    if c = '\'' then s.enter .single
    else if c = '"' then s.enter .double
    else if c = '\\' then s.enter .betweenBackslash
    else if isSeparator c then s
    else if c = '#' then s.enter .comment
    else s.add .plain c
  | .betweenBackslash => if c = '\n' then s.enter .between else s.add .plain c
  | .plain =>
    if c = '\'' then s.enter .single
    else if c = '"' then s.enter .double
    else if c = '\\' then s.enter .plainBackslash
    else if isSeparator c then s.cut .between
    else s.add .plain c
  | .plainBackslash => if c = '\n' then s.enter .plain else s.add .plain c
  | .single => if c = '\'' then s.enter .plain else s.add .single c
  | .double =>
    if c = '"' then s.enter .plain
    else if c = '\\' then s.enter .doubleBackslash
    else s.add .double c
  | .doubleBackslash =>
    if c = '\n' then s.enter .double
    else if isEscapable c then s.add .double c
    else (s.add .double '\\').add .double c
  | .comment => if c = '\n' then s.enter .between else s

/-- The words once the line has ended, unless a quote is open. A last backslash stands for
itself. -/
def finish (s : State) : Option (List (List Char)) :=
  match s.mode with
  | .between | .comment => some s.words.reverse
  | .plain => some (s.cut .between).words.reverse
  | .betweenBackslash | .plainBackslash => some ((s.add .plain '\\').cut .between).words.reverse
  | .single | .double | .doubleBackslash => none

end State

def split? (line : String) : Option (List String) :=
  ((line.toList.foldl State.step ⟨.between, [], []⟩).finish).map (·.map String.ofList)

end Words

namespace Arguments

/-- The flag occurs with this value, as the next argument or after an equals sign. -/
def has (flag value : String) : List String → Bool
  | [] => false
  | arg :: rest =>
    (arg == flag && rest.head? == some value) || arg == flag ++ "=" ++ value ||
      has flag value rest

end Arguments

end CoordinatorGateway
