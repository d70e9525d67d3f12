import Dirlang.Files.Tree

/-!
Trees from descriptions: one text for each directory, file and link.
-/

namespace Dirlang.Tree

/-- Something to plant in a tree. -/
inductive Seedling
  | dir (path : String)
  | file (path : String)
  | link (path target : String)
deriving DecidableEq

namespace Seedling

/-- A path with a slash at its end describes a directory, any other a file. -/
def ofPath (path : String) : Seedling :=
  if path.toList.getLast? = some '/' then .dir path else .file path

/-- A link is described by its path, an arrow and its target. -/
def ofLine (line : String) : Seedling :=
  match line.splitOn " -> " with
  | [path, target] => .link path target
  | _ => ofPath line

end Seedling

/-- Puts a node at a path, unless something is there; the directories above are made where they
are missing. -/
def plantNode (t : Tree) (path : String) (n : Node) : Tree :=
  let t := (t.createDirAll ((above path).headD "")).2
  match t.holder path with
  | .ok (location, entries, some name) =>
    if (entries.lookup name).isSome then t
    else { t with root := t.root.edit (Node.insert name n) location }
  | _ => t

def plant (t : Tree) : Seedling → Tree
  | .dir path => (t.createDirAll path).2
  | .file path => t.plantNode path .file
  | .link path target => t.plantNode path (.link target)

end Dirlang.Tree
