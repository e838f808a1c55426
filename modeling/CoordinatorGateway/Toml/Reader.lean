import CoordinatorGateway.Toml.Scalar

namespace CoordinatorGateway.Toml

def isBareKeyChar (c : Char) : Bool := c.isAlphanum || c == '_' || c == '-'

def keyPart? (cs : List Char) : Option (String × List Char) :=
  match cs with
  | '"' :: rest => readBasic [] rest
  | '\'' :: rest => readLiteral [] rest
  | _ =>
    let name := cs.takeWhile isBareKeyChar
    if name.isEmpty then none else some (String.ofList name, cs.drop name.length)

/-- Keys of as many parts, and values nested as deep, are refused. -/
def maxDepth : Nat := 80

/-- The parts of a key between dots, with blanks around them; at most `room` parts. -/
def keyParts? : Nat → List Char → Option (List String × List Char)
  | 0, _ => none
  | room + 1, cs => do
    let (part, rest) ← keyPart? (skipBlanks cs)
    match skipBlanks rest with
    | '.' :: rest =>
      let (parts, rest) ← keyParts? room rest
      return (part :: parts, rest)
    | rest => return ([part], rest)

def key? (cs : List Char) : Option (List String × List Char) := keyParts? (maxDepth - 1) cs

def skipComment (cs : List Char) : List Char :=
  match cs with
  | '#' :: rest => rest.dropWhile isLineChar
  | _ => cs

/-- The rest of a line without anything but a comment, and the line break. -/
def endLine? (cs : List Char) : Option (List Char) :=
  match skipComment (skipBlanks cs) with
  | [] => some []
  | rest => newline? rest

def skipLines : Nat → List Char → List Char
  | 0, cs => cs
  | fuel + 1, cs =>
    match skipBlanks cs with
    | '#' :: rest =>
      match newline? (skipComment ('#' :: rest)) with
      | some rest => skipLines fuel rest
      | none => '#' :: rest
    | rest =>
      match newline? rest with
      | some rest => skipLines fuel rest
      | none => rest

mutual

def value? : Nat → Nat → List Char → Option (Toml × List Char)
  | 0, _, _ => none
  | fuel + 1, depth, cs =>
    match cs with
    | '[' :: rest =>
      if depth = 0 then none
      else (items? fuel (depth - 1) [] rest).map fun (items, rest) => (.array items, rest)
    | '\x7b' :: rest =>
      if depth = 0 then none
      else match skipBlanks rest with
        | '\x7d' :: rest => some (.table .inline [], rest)
        | rest =>
          (members? fuel (depth - 1) [] rest).map fun (ms, rest) => (.table .inline ms, rest)
    | _ => scalarValue? cs

/-- The items of an array up to its closing bracket, the last one first in `acc`. -/
def items? : Nat → Nat → List Toml → List Char → Option (List Toml × List Char)
  | 0, _, _, _ => none
  | fuel + 1, depth, acc, cs =>
    match skipLines cs.length cs with
    | ']' :: rest => some (acc.reverse, rest)
    | cs => do
      let (v, rest) ← value? fuel depth cs
      match skipLines rest.length rest with
      | ',' :: rest => items? fuel depth (v :: acc) rest
      | ']' :: rest => return ((v :: acc).reverse, rest)
      | _ => none

/-- The members of a table in braces; all of it stands on one line. -/
def members? : Nat → Nat → Members → List Char → Option (Members × List Char)
  | 0, _, _, _ => none
  | fuel + 1, depth, acc, cs => do
    let (path, rest) ← key? cs
    let rest ← char? '=' rest
    let (v, rest) ← value? fuel depth (skipBlanks rest)
    let acc ← assign path v acc
    match skipBlanks rest with
    | ',' :: rest => members? fuel depth acc rest
    | '\x7d' :: rest => return (acc, rest)
    | _ => none

end

def header? (cs : List Char) : Option (Bool × List String × List Char) :=
  match cs with
  | '[' :: cs => do
    let (path, rest) ← key? cs
    let rest ← char? ']' (← char? ']' rest)
    return (true, path, rest)
  | _ => do
    let (path, rest) ← key? cs
    return (false, path, ← char? ']' rest)

def statements? : Nat → Document → List Char → Option Document
  | 0, _, _ => none
  | fuel + 1, d, cs =>
    match skipLines cs.length cs with
    | [] => some d
    | '#' :: rest => if skipComment ('#' :: rest) = [] then some d else none
    | '[' :: rest => do
      let (repeated, path, rest) ← header? rest
      statements? fuel (← d.header repeated path) (← endLine? rest)
    | cs => do
      let (path, rest) ← key? cs
      let rest ← char? '=' rest
      let (v, rest) ← value? (2 * rest.length + 2) (maxDepth - 1) (skipBlanks rest)
      statements? fuel (← d.assign path v) (← endLine? rest)

/-- The members of the document, unless it is malformed. A byte order mark in front is passed. -/
def read? (text : String) : Option Members :=
  let cs := match text.toList with
    | '\ufeff' :: rest => rest
    | cs => cs
  (statements? (cs.length + 1) .empty cs).map Document.members

end CoordinatorGateway.Toml
