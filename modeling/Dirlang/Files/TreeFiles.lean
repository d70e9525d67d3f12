import Dirlang.Files.Basic
import Dirlang.Files.Tree
import Dirlang.Glob.Report
import Dirlang.Glob.Search

/-!
A file tree as the file system of a machine.
-/

namespace Dirlang.Tree

def view (t : Tree) : Glob.View where
  isDir := t.isDir
  isPresent := t.isPresent
  names path := match t.list path with
    | .ok names => names
    | .error _ => []

/-- A relative pattern is put below the base, whose own text stands for itself in it. -/
def fullPattern (base pattern : String) : String :=
  if Path.isAbsolute pattern then pattern else Path.resolve (Glob.escape base) pattern

def glob (t : Tree) (base pattern : String) : Except String (List String) :=
  match Glob.search t.view (fullPattern base pattern) with
  | .error e => .error e.message
  | .ok found =>
    let base := if Path.isAbsolute pattern then none else some (Text.utf8 base)
    .ok (Glob.report (ε := OsError) base (found.map (.ok ∘ Text.utf8)))

instance : FileSystem Tree where
  isDir := isDir
  list t path := (t.list path).mapError OsError.message
  canonicalize t path := (t.canonicalize path).mapError OsError.message
  removeDir t path := match t.removeDir path with
    | .ok t => (.ok (), t)
    | .error e => (.error e.message, t)
  createDirAll t path := (t.createDirAll path).map (·.mapError OsError.message) id
  glob := glob

end Dirlang.Tree
