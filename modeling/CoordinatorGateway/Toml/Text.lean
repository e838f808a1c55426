namespace CoordinatorGateway.Toml

def isBlankChar (c : Char) : Bool := c == ' ' || c == '\t'

/-- What may stand on a line: no control characters but the tab. -/
def isLineChar (c : Char) : Bool := c == '\t' || (32 ≤ c.toNat && c.toNat ≠ 127)

def skipBlanks (cs : List Char) : List Char := cs.dropWhile isBlankChar

def newline? : List Char → Option (List Char)
  | '\n' :: rest => some rest
  | '\r' :: '\n' :: rest => some rest
  | _ => none

def hexDigit? (c : Char) : Option Nat :=
  if c.isDigit then some (c.toNat - 48)
  else if 'A' ≤ c ∧ c ≤ 'F' then some (c.toNat - 55)
  else if 'a' ≤ c ∧ c ≤ 'f' then some (c.toNat - 87)
  else none

def scalar? (digits : List Char) : Option Char := do
  let n := (← digits.mapM hexDigit?).foldl (fun n d => 16 * n + d) 0
  if n.isValidChar then some (Char.ofNat n) else none

def shortEscape? (c : Char) : Option Char :=
  match c with
  | 'b' => some '\x08'
  | 'f' => some '\x0c'
  | 'n' => some '\n'
  | 'r' => some '\r'
  | 't' => some '\t'
  | '"' => some '"'
  | '\\' => some '\\'
  | _ => none

def finishText (acc rest : List Char) : Option (String × List Char) :=
  some (String.ofList acc.reverse, rest)

def readBasic (acc : List Char) : List Char → Option (String × List Char)
  | [] => none
  | '"' :: rest => finishText acc rest
  | '\\' :: 'u' :: a :: b :: c :: d :: rest =>
    match scalar? [a, b, c, d] with
    | some x => readBasic (x :: acc) rest
    | none => none
  | '\\' :: 'U' :: a :: b :: c :: d :: e :: f :: g :: h :: rest =>
    match scalar? [a, b, c, d, e, f, g, h] with
    | some x => readBasic (x :: acc) rest
    | none => none
  | '\\' :: c :: rest =>
    match shortEscape? c with
    | some x => readBasic (x :: acc) rest
    | none => none
  | c :: rest => if isLineChar c && c != '\\' then readBasic (c :: acc) rest else none

def readLiteral (acc : List Char) : List Char → Option (String × List Char)
  | [] => none
  | c :: rest =>
    if c = '\'' then finishText acc rest
    else if isLineChar c then readLiteral (c :: acc) rest
    else none

/-- A backslash at the end of a line joins it to the next text; `joining` says that the blanks and
line breaks after one are being passed. Up to two quotes may stand right before the closing ones. -/
def readBasicLines (joining : Bool) (acc : List Char) : List Char → Option (String × List Char)
  | [] => none
  | '"' :: '"' :: '"' :: '"' :: '"' :: rest => finishText ('"' :: '"' :: acc) rest
  | '"' :: '"' :: '"' :: '"' :: rest => finishText ('"' :: acc) rest
  | '"' :: '"' :: '"' :: rest => finishText acc rest
  | '\\' :: 'u' :: a :: b :: c :: d :: rest =>
    match scalar? [a, b, c, d] with
    | some x => readBasicLines false (x :: acc) rest
    | none => none
  | '\\' :: 'U' :: a :: b :: c :: d :: e :: f :: g :: h :: rest =>
    match scalar? [a, b, c, d, e, f, g, h] with
    | some x => readBasicLines false (x :: acc) rest
    | none => none
  | '\\' :: c :: rest =>
    match shortEscape? c with
    | some x => readBasicLines false (x :: acc) rest
    | none => if (newline? (skipBlanks (c :: rest))).isSome then readBasicLines true acc (c :: rest)
      else none
  | '\r' :: '\n' :: rest => readBasicLines joining (if joining then acc else '\n' :: acc) rest
  | c :: rest =>
    if c = '\n' ∨ (joining ∧ isBlankChar c) then
      readBasicLines joining (if joining then acc else c :: acc) rest
    else if isLineChar c && c != '\\' then readBasicLines false (c :: acc) rest
    else none

def readLiteralLines (acc : List Char) : List Char → Option (String × List Char)
  | [] => none
  | '\'' :: '\'' :: '\'' :: '\'' :: '\'' :: rest => finishText ('\'' :: '\'' :: acc) rest
  | '\'' :: '\'' :: '\'' :: '\'' :: rest => finishText ('\'' :: acc) rest
  | '\'' :: '\'' :: '\'' :: rest => finishText acc rest
  | '\r' :: '\n' :: rest => readLiteralLines ('\n' :: acc) rest
  | c :: rest => if c = '\n' ∨ isLineChar c then readLiteralLines (c :: acc) rest else none

def dropFirstNewline (cs : List Char) : List Char := (newline? cs).getD cs

def readString : List Char → Option (String × List Char)
  | '"' :: '"' :: '"' :: rest => readBasicLines false [] (dropFirstNewline rest)
  | '"' :: rest => readBasic [] rest
  | '\'' :: '\'' :: '\'' :: rest => readLiteralLines [] (dropFirstNewline rest)
  | '\'' :: rest => readLiteral [] rest
  | _ => none

end CoordinatorGateway.Toml
