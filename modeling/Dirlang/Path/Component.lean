import Dirlang.Path.Raw

/-!
Paths as components: what a path means once doubled slashes and needless dots are left out.

`stripBase?` says where a path lies under a base, by components rather than by text; the rest of
the path keeps its own spelling, except that vacuous pieces at its two ends go.
-/

namespace Dirlang.RawPath

inductive Component
  | root
  | current
  | parent
  | name (s : RawPath)
deriving DecidableEq

/-- The component that a piece inside a path stands for, if any. -/
def component? (piece : RawPath) : Option Component :=
  if piece = [] || piece = [dot] then none
  else if piece = [dot, dot] then some .parent
  else some (.name piece)

def isVacuous (piece : RawPath) : Bool := (component? piece).isNone

/-- How a path starts: at the root, with a dot, or with its first piece. -/
def lead? : List RawPath → Option Component
  | [] :: _ :: _ => some .root
  | piece :: _ => if piece = [dot] then some .current else none
  | [] => none

/-- The pieces after the start of a path. -/
def body (ps : List RawPath) : List RawPath :=
  if (lead? ps).isSome then ps.drop 1 else ps

def components (p : RawPath) : List Component :=
  (lead? (pieces p)).toList ++ (body (pieces p)).filterMap component?

def trimEnd (ps : List RawPath) : List RawPath := (ps.reverse.dropWhile isVacuous).reverse

def trim (ps : List RawPath) : List RawPath := trimEnd (ps.dropWhile isVacuous)

/-- The pieces left of `ps` once the given components have been read off its front. -/
def after : List Component → List RawPath → Option (List RawPath)
  | [], ps => some ps
  | _ :: _, [] => none
  | c :: cs, p :: ps =>
    match component? p with
    | none => after (c :: cs) ps
    | some d => if c = d then after cs ps else none

/-- A path from its start and the pieces after it. -/
def build (lead : Option Component) (ps : List RawPath) : RawPath :=
  match lead with
  | some .root => slash :: ofPieces ps
  | some .current => ofPieces ([dot] :: ps)
  | _ => ofPieces ps

/-- The rest of a path below a base whose components it begins with. -/
def stripBase? (path base : RawPath) : Option RawPath :=
  let lead := lead? (pieces path)
  let below := body (pieces path)
  match components base with
  | [] => some (build lead (trimEnd below))
  | c :: cs =>
    match lead with
    | some d => if c = d then (after cs below).map (ofPieces ∘ trim) else none
    | none => (after (c :: cs) below).map (ofPieces ∘ trim)

/-- What is left of the pieces of a path, given in reverse, as its last component goes away, and
the one before it, and so on. -/
def shrink : List RawPath → List (List RawPath)
  | [] => []
  | p :: ps => if isVacuous p then shrink ps else (ps.dropWhile isVacuous).reverse :: shrink ps

/-- The directories above a path, nearest first. -/
def parents (path : RawPath) : List RawPath :=
  let lead := lead? (pieces path)
  let above := (shrink (body (pieces path)).reverse).map (build lead)
  if lead = some .current then above ++ [[]] else above

end Dirlang.RawPath
