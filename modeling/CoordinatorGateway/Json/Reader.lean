import CoordinatorGateway.Json.Scan

namespace CoordinatorGateway.Json

def maxDepth : Nat := 128

mutual

/-- A value; `depth` arrays and objects less one may still be opened. The first argument bounds
the steps and is at least the number of bytes to read. -/
def readValue : Nat → Nat → Bytes → Except Fault (Json × Bytes)
  | 0, _, rest => .error (.before .endInValue rest)
  | fuel + 1, depth, rest =>
    match skipBlanks rest with
    | [] => .error (.before .endInValue [])
    | b :: r =>
      if b = 110 then do return (.null, ← word ull r)
      else if b = 116 then do return (.bool true, ← word rue r)
      else if b = 102 then do return (.bool false, ← word alse r)
      else if b = 45 then do
        let (n, r) ← readNumber false r
        return (.number n, r)
      else if isDigitByte b then do
        let (n, r) ← readNumber true (b :: r)
        return (.number n, r)
      else if b = 34 then do
        let (s, r) ← readString r
        return (.string s, r)
      else if b = 91 then
        if depth ≤ 1 then .error (.inFirst .tooDeep (b :: r))
        else readItems fuel (depth - 1) true [] r
      else if b = 123 then
        if depth ≤ 1 then .error (.inFirst .tooDeep (b :: r))
        else readMembers fuel (depth - 1) true [] r
      else .error (.inFirst .valueExpected (b :: r))

/-- The items of an array after its bracket; `acc` has those before, the last first. -/
def readItems : Nat → Nat → Bool → List Json → Bytes → Except Fault (Json × Bytes)
  | 0, _, _, _, rest => .error (.before .endInArray rest)
  | fuel + 1, depth, first, acc, rest =>
    match skipBlanks rest with
    | [] => .error (.before .endInArray [])
    | b :: r =>
      if b = 93 then .ok (.array acc.reverse, r)
      else if first then do
        let (v, r) ← readValue fuel depth (b :: r)
        readItems fuel depth false (v :: acc) r
      else if b = 44 then
        match skipBlanks r with
        | [] => .error (.before .endInValue [])
        | c :: r' =>
          if c = 93 then .error (.inFirst .trailingComma (c :: r'))
          else do
            let (v, r) ← readValue fuel depth (c :: r')
            readItems fuel depth false (v :: acc) r
      else .error (.inFirst .arrayCommaOrEndExpected (b :: r))

/-- The members of an object after its brace; `acc` has those before, sorted. -/
def readMembers : Nat → Nat → Bool → List Member → Bytes → Except Fault (Json × Bytes)
  | 0, _, _, _, rest => .error (.before .endInObject rest)
  | fuel + 1, depth, first, acc, rest =>
    match skipBlanks rest with
    | [] => .error (.before .endInObject [])
    | b :: r =>
      if b = 125 then .ok (.object acc, r)
      else if first then
        if b = 34 then readMember fuel depth acc r else .error (.inFirst .keyExpected (b :: r))
      else if b = 44 then
        match skipBlanks r with
        | [] => .error (.before .endInValue [])
        | c :: r' =>
          if c = 34 then readMember fuel depth acc r'
          else if c = 125 then .error (.inFirst .trailingComma (c :: r'))
          else .error (.inFirst .keyExpected (c :: r'))
      else .error (.inFirst .objectCommaOrEndExpected (b :: r))

def readMember : Nat → Nat → List Member → Bytes → Except Fault (Json × Bytes)
  | 0, _, _, rest => .error (.before .endInObject rest)
  | fuel + 1, depth, acc, rest => do
    let (key, r) ← readString rest
    match skipBlanks r with
    | [] => .error (.before .endInObject [])
    | b :: r' =>
      if b = 58 then do
        let (v, r) ← readValue fuel depth r'
        readMembers fuel depth false (putMember key v acc) r
      else .error (.inFirst .colonExpected (b :: r'))

end

def finish (rest : Bytes) : Except Fault Unit :=
  match skipBlanks rest with
  | [] => .ok ()
  | b :: r => .error (.inFirst .trailingCharacters (b :: r))

/-- Each value takes a byte and at most two steps. -/
def stepBound (input : Bytes) : Nat := 2 * input.length + 2

def read (input : Bytes) : Except Fault Json := do
  let (v, rest) ← readValue (stepBound input) maxDepth input
  finish rest
  return v

end CoordinatorGateway.Json
