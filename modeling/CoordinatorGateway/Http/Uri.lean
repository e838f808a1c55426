import CoordinatorGateway.Text.Basic

namespace CoordinatorGateway

structure Uri where
  scheme : Option String
  authority : String
  /-- Empty where there is only an authority. -/
  path : String
  query : Option String
  deriving DecidableEq, Repr

namespace Uri

/-- In bytes. -/
def maxLength : Nat := 65534

def maxSchemeLength : Nat := 64

def isSchemeChar (c : Char) : Bool :=
  c.isAlphanum || c == '+' || c == '-' || c == '.' || c == '~'

def isAuthorityChar (c : Char) : Bool :=
  c.isAlphanum ||
    ['!', '$', '&', '\'', '(', ')', '*', '+', ',', '-', '.', ';', '=', '_', '~'].contains c

def isPathChar (c : Char) : Bool :=
  c == '!' || ('$' ≤ c && c ≤ ';') || c == '=' || ('@' ≤ c && c ≤ '_') || ('a' ≤ c && c ≤ 'z') ||
    c == '|' || c == '~' || 127 ≤ c.toNat || c == '"' || c == '\x7b' || c == '\x7d'

def isQueryChar (c : Char) : Bool :=
  c == '!' || ('$' ≤ c && c ≤ ';') || c == '=' || '?' ≤ c

inductive SchemeResult where
  | none
  | tooLong
  | scheme (name rest : List Char)
  deriving DecidableEq, Repr

/-- The characters before the first `://`, if all of them may stand in a scheme. -/
def splitScheme (cs : List Char) : SchemeResult :=
  let name := cs.takeWhile isSchemeChar
  match cs.drop name.length with
  | ':' :: '/' :: '/' :: rest =>
    if maxSchemeLength < name.length then .tooLong else .scheme name rest
  | _ => .none

structure AuthorityScan where
  /-- Colons since the last `@` or closing bracket. -/
  colons : Nat
  opened : Bool
  closed : Bool
  /-- A percent sign since the last `@` or closing bracket. -/
  percent : Bool
  /-- The last character was an `@`. -/
  afterAt : Bool

namespace AuthorityScan

def start : AuthorityScan := ⟨0, false, false, false, false⟩

def step (s : AuthorityScan) (c : Char) : Option AuthorityScan :=
  let s := { s with afterAt := false }
  if c = ':' then if 8 ≤ s.colons then none else some { s with colons := s.colons + 1 }
  else if c = '[' then if s.percent || s.opened then none else some { s with opened := true }
  else if c = ']' then
    if !s.opened || s.closed then none
    else some { s with closed := true, colons := 0, percent := false }
  else if c = '@' then some { s with colons := 0, percent := false, afterAt := true }
  else if c = '%' then some { s with percent := true }
  else if isAuthorityChar c then some s
  else none

/-- Brackets come in pairs, one colon at most stands before a port, something follows an `@`, and
percent signs stand only in front of it. -/
def isComplete (s : AuthorityScan) : Bool :=
  s.opened == s.closed && s.colons ≤ 1 && !s.afterAt && !s.percent

end AuthorityScan

def endsAuthority (c : Char) : Bool := c == '/' || c == '?' || c == '#'

def splitAuthority? (cs : List Char) : Option (List Char × List Char) :=
  let authority := cs.takeWhile fun c => !endsAuthority c
  match authority.foldlM AuthorityScan.step .start with
  | some s => if s.isComplete then some (authority, cs.drop authority.length) else none
  | none => none

def splitPath? (cs : List Char) : Option (String × Option String) :=
  let cs := cs.takeWhile (· != '#')
  let path := cs.takeWhile (· != '?')
  let query := (cs.drop path.length).tail?
  if path.all isPathChar && (query.getD []).all isQueryChar then
    some (String.ofList path, query.map String.ofList)
  else none

def slashIfEmpty (path : String) : String := if path.isEmpty then "/" else path

def read? (text : String) : Option Uri :=
  let cs := text.toList
  if maxLength < text.utf8ByteSize then none
  else match cs with
    | [] => none
    | ['*'] => some ⟨none, "", "*", none⟩
    | '/' :: _ => (splitPath? cs).map fun (path, query) => ⟨none, "", path, query⟩
    | _ =>
      match splitScheme cs with
      | .tooLong => none
      | .none =>
        match splitAuthority? cs with
        | some (authority, []) => some ⟨none, String.ofList authority, "", none⟩
        | _ => none
      | .scheme name rest =>
        match splitAuthority? rest with
        | some (c :: authority, rest) =>
          (splitPath? rest).map fun (path, query) =>
            ⟨some (String.ofList name), String.ofList (c :: authority), slashIfEmpty path, query⟩
        | _ => none

end Uri

end CoordinatorGateway
