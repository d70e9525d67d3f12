import Dirlang.Glob.Pattern
import Dirlang.Path.Basic
import Dirlang.Path.Component
import Dirlang.Text.Utf8

/-!
Searching a tree of directories for the paths that fit a pattern.

A pattern is searched component by component. A component without wildcards is looked up by its
name, any other is tried on every name in the directory, in order, and `**` stands for any number
of directories. The paths found are spelled as the pattern leads to them.
-/

namespace Dirlang.Glob

/-- What a search sees of a file system. -/
structure View where
  isDir : String → Bool
  /-- Something has this name, be it a link that leads nowhere. -/
  isPresent : String → Bool
  /-- Names in a directory, sorted. -/
  names : String → List String

/-- Where a search starts if its pattern is relative. -/
def here : String := "."

def isHere (path : String) : Bool := RawPath.components (Text.utf8 path) = [.current]

/-- The path of `name` in a directory; what lies here is spelled by its name alone. -/
def child (dir name : String) : String := if isHere dir then name else Path.resolve dir name

/-- The longest path, in bytes, that names anything. -/
def longestPath : Nat := 4096

structure Query where
  view : View
  /-- Only directories are wanted. -/
  dirsOnly : Bool

namespace Query

def wanted (q : Query) (path : String) : List String :=
  if !q.dirsOnly || q.view.isDir path then [path] else []

/-- The dot entries count only for a pattern that begins with a dot. -/
def dotEntries (component : List Token) : List String :=
  if component.head? = some (.char '.') then
    ["..", "."].filter fun s => fits component s.toList
  else []

def isLiteralPresent (q : Query) (dir name : String) : Bool :=
  if name = "." || name = ".." then q.view.isDir dir else q.view.isPresent (child dir name)

mutual

/-- Paths below `dir` that fit the components. -/
def below (q : Query) : Nat → List (List Token) → String → List String
  | 0, _, _ => []
  | _, [], _ => []
  | fuel + 1, c :: cs, dir =>
    match literal? c with
    | some name =>
      let name := String.ofList name
      if q.isLiteralPresent dir name then reached q fuel cs (child dir name) else []
    | none =>
      if q.view.isDir dir then
        (dotEntries c).flatMap (fun name => reached q fuel cs (Path.resolve dir name)) ++
          (q.view.names dir).flatMap (fun name => visit q fuel (c :: cs) (child dir name) name)
      else []

/-- Paths at or below `path`, which the components before `cs` have led to. -/
def reached (q : Query) : Nat → List (List Token) → String → List String
  | _, [], path => q.wanted path
  | 0, _ :: _, _ => []
  | fuel + 1, c :: cs, path => below q fuel (c :: cs) path

/-- Paths at or below `path`, whose last name is `name` and is matched against the first of the
components. A `**` matches on and on downwards, but lets the components after it try first. -/
def visit (q : Query) : Nat → List (List Token) → String → String → List String
  | 0, _, _, _ => []
  | _, [], _, _ => []
  | fuel + 1, c :: cs, path, name =>
    if c = [.anyDepth] then
      let rest := cs.dropWhile (· = [.anyDepth])
      let deeper := if q.view.isDir path then below q fuel (c :: rest) path else []
      match rest with
      | [] => if q.view.isDir path then path :: deeper else []
      | _ :: _ => visit q fuel rest path name ++ deeper
    else if fits c name.toList then reached q fuel cs path
    else []

end

end Query

/-- The components of a pattern. A final slash asks for directories and is no component. -/
def componentTexts (pattern : String) : List String :=
  let absolute := Path.isAbsolute pattern
  let ps := if absolute then (Path.pieces pattern).drop 1 else Path.pieces pattern
  if ps = [""] then ps
  else if ps.getLast? = some "" then ps.dropLast else ps

/-- All paths that fit, in the order in which the search comes to them. The pattern as a whole is
checked first, so that errors count from its beginning. A step of the search goes on to the next
component or to a longer path, which bounds their number. -/
def search (v : View) (pattern : String) : Except PatternError (List String) := do
  let _ ← tokens pattern
  let cs ← (componentTexts pattern).mapM tokens
  let q : Query := ⟨v, pattern.toList.getLast? = some '/'⟩
  let start := if Path.isAbsolute pattern then "/" else here
  return q.below (3 * (longestPath + cs.length)) cs start

end Dirlang.Glob
