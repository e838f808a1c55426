import CoordinatorGateway.Text.Basic

namespace CoordinatorGateway.Path

def isAbsolute (path : String) : Bool := path.toList.head? == some '/'

def pieces (path : String) : List String := Text.splitAt '/' path

def ofPieces (ps : List String) : String := "/".intercalate ps

/-- An absolute second path stands for itself. -/
def join (base path : String) : String :=
  if isAbsolute path ∨ base.isEmpty then path
  else if base.toList.getLast? == some '/' then base ++ path
  else base ++ "/" ++ path

/-- Empty pieces, and points that do not start a relative path, name nothing. -/
def isIdle (piece : String) : Bool := piece == "" || piece == "."

/-- The pieces in reverse without those that name nothing at the front; `first` says whether a
point may start the path. -/
def dropIdle (first : Bool) : List String → List String
  | [] => []
  | [piece] => if piece == "" || (piece == "." && !first) then [] else [piece]
  | piece :: rest => if isIdle piece then dropIdle first rest else piece :: rest

/-- The last piece that names something, and what stands before it. -/
def splitLast? (path : String) : Option (String × String) :=
  let absolute := isAbsolute path
  let body := if absolute then (pieces path).drop 1 else pieces path
  match dropIdle (!absolute) body.reverse with
  | [] => none
  | last :: rest =>
    let before := ofPieces (dropIdle (!absolute) rest).reverse
    some (if absolute then "/" ++ before else before, last)

/-- The path without its last component; the root and the empty path have none. -/
def parent? (path : String) : Option String := (splitLast? path).map Prod.fst

def fileName? (path : String) : Option String :=
  match splitLast? path with
  | some (_, last) => if last == "." || last == ".." then none else some last
  | none => none

def ancestorsUpTo : Nat → String → List String
  | 0, _ => []
  | n + 1, path =>
    path :: match parent? path with
      | some parent => ancestorsUpTo n parent
      | none => []

def ancestors (path : String) : List String := ancestorsUpTo (path.length + 1) path

end CoordinatorGateway.Path
