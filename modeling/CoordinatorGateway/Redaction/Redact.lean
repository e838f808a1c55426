import CoordinatorGateway.Redaction.Pattern
import CoordinatorGateway.Unicode.Classes

namespace CoordinatorGateway.Redaction

def isLetter (c : Char) : Bool := c.isAlpha

def isLetterOrDigit (c : Char) : Bool := c.isAlphanum

def isSchemeChar (c : Char) : Bool := c.isAlphanum || c == '+' || c == '.' || c == '-'

def isUrlChar (c : Char) : Bool := !Unicode.isBlank c && c != ',' && c != ';' && c != ')'

def isHexAddressChar (c : Char) : Bool :=
  c.isDigit || ('A' ≤ c && c ≤ 'F') || ('a' ≤ c && c ≤ 'f') || c == ':' || c == '.'

def isHostChar (c : Char) : Bool := c.isAlphanum || c == '.' || c == '-'

def isSlash (c : Char) : Bool := c == '/' || c == '\\'

def isFileNameChar (c : Char) : Bool := c.isAlphanum || c == '.' || c == '_' || c == '-'

def isLowerStart (c : Char) : Bool := c.isLower || c == '_'

def isLowerChar (c : Char) : Bool := c.isLower || c.isDigit || c == '_'

def isNameChar (c : Char) : Bool := c.isAlphanum || c == '_'

def opensSegment (c : Char) : Bool :=
  Unicode.isBlank c || c == ':' || c == '(' || c == '=' || c == '\'' || c == '"'

open Pattern

/-- A scheme, `://`, and all up to a blank, comma, semicolon or closing parenthesis. -/
def url : Pattern :=
  sequence [wordEdge, char isLetter, many (char isSchemeChar), literal [':', '/', '/'],
    oneOrMore (char isUrlChar)]

/-- A host name or a bracketed numeric address, with a port of one to five digits. -/
def hostPort : Pattern :=
  sequence [
    either (sequence [char (· == '['), oneOrMore (char isHexAddressChar), char (· == ']')])
      (sequence [wordEdge, char isLetterOrDigit, many (char isHostChar)]),
    char (· == ':'), char Unicode.isDigit, upTo (char Unicode.isDigit) 4, wordEdge]

def drive : Pattern := optional (seq (char isLetter) (char (· == ':')))

def segment : Pattern := seq (char isSlash) (oneOrMore (char isFileNameChar))

def path : Pattern :=
  sequence [drive, segment, segment, many segment, optional (char isSlash)]

def segmentLead : Pattern := either textStart (char opensSegment)

/-- A path of one segment, where a path can start. -/
def loneSegment : Pattern := sequence [drive, segment, optional (char isSlash)]

/-- A dotted lower-case package with a capitalised message, and perhaps a method. -/
def messageName : Pattern :=
  sequence [wordEdge, char isLowerStart, many (char isLowerChar),
    many (sequence [char (· == '.'), char isLowerStart, many (char isLowerChar)]),
    char (· == '.'), char Char.isUpper, many (char isNameChar),
    optional (seq (char (· == '/')) (oneOrMore (char isNameChar))), wordEdge]

def urlRule : Rule := ⟨nothing, url, ['[', 'u', 'r', 'l', ']']⟩

def hostPortRule : Rule := ⟨nothing, hostPort, ['[', 'a', 'd', 'd', 'r', ']']⟩

def pathRule : Rule := ⟨nothing, path, ['[', 'p', 'a', 't', 'h', ']']⟩

def loneSegmentRule : Rule := ⟨segmentLead, loneSegment, ['[', 'p', 'a', 't', 'h', ']']⟩

def messageNameRule : Rule := ⟨nothing, messageName, ['[', 'i', 'd', 'e', 'n', 't', ']']⟩

def rules : List Rule := [urlRule, hostPortRule, pathRule, loneSegmentRule, messageNameRule]

def redactChars (cs : List Char) : List Char :=
  Unicode.trimChars (rules.foldl (fun text rule => rule.apply text) cs)

def maxLength : Nat := 200

def shorten (cs : List Char) : List Char :=
  if cs.length ≤ maxLength then cs else cs.take maxLength ++ ['.', '.', '.']

end CoordinatorGateway.Redaction

namespace CoordinatorGateway

/-- What the coordinator says of an error, without addresses, files and message types. -/
def redact (message : String) : String :=
  String.ofList (Redaction.shorten (Redaction.redactChars message.toList))

end CoordinatorGateway
