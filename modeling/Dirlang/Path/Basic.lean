/-!
Paths as text: pieces between slashes, and joining one path to another.

Joining is purely textual. Nothing is normalised; a slash is put in only where the base neither
is empty nor ends in one, and an absolute path stands for itself whatever the base is.
-/

namespace Dirlang.Path

/-- The pieces of a text between its slashes; there is always at least one. -/
def cut : List Char → List (List Char)
  | [] => [[]]
  | c :: cs =>
    if c = '/' then [] :: cut cs
    else match cut cs with
      | [] => [[c]]
      | p :: ps => (c :: p) :: ps

def pieces (p : String) : List String := (cut p.toList).map String.ofList

def ofPieces (ps : List String) : String := "/".intercalate ps

def isAbsolute (p : String) : Bool := p.toList.head? = some '/'

/-- Another piece may follow a path as it stands. -/
def isClosed (p : String) : Bool := p.isEmpty || p.toList.getLast? = some '/'

/-- `path` as seen from `base`. -/
def resolve (base path : String) : String :=
  if isAbsolute path then path
  else if isClosed base then base ++ path
  else base ++ "/" ++ path

theorem resolve_absolute {path : String} (h : isAbsolute path) (base : String) :
    resolve base path = path := by simp [resolve, h]

theorem resolve_empty (path : String) : resolve "" path = path := by
  simp [resolve, isClosed]

end Dirlang.Path
