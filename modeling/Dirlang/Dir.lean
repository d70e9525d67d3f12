import Dirlang.Error
import Dirlang.Files.Basic
import Dirlang.Path.Basic

/-!
Open directories: a listing taken once, and a cursor on it.

What happens to the directory afterwards is never seen. The cursor may be set anywhere; outside
the listing there is nothing to read, which is no error. Reading and asking for the path need the
directory to be open, nothing else does.
-/

namespace Dirlang

structure Dir where
  /-- The path as it was given. -/
  path : String
  names : List String
  pos : Int64
  isOpen : Bool
deriving DecidableEq

namespace Dir

/-- A host lists neither of the dot entries; every listing of ours begins with them. -/
def withDots (listing : List String) : List String := "." :: ".." :: listing

def ofListing (path : String) (listing : List String) : Dir := ⟨path, withDots listing, 0, true⟩

def close (d : Dir) : Dir := { d with isOpen := false }

def seek (d : Dir) (pos : Int64) : Dir := { d with pos := pos }

def rewind (d : Dir) : Dir := d.seek 0

/-- The name under the cursor. -/
def current? (d : Dir) : Option String := d.pos.toInt.toNat?.bind (d.names[·]?)

/-- The name under the cursor, which moves on if there is one. -/
def read (d : Dir) : Except Error (Option String × Dir) :=
  if !d.isOpen then .error .alreadyClosed
  else match d.current? with
    | some name => .ok (some name, d.seek (d.pos + 1))
    | none => .ok (none, d)

/-- The path, while the directory is open. -/
def path? (d : Dir) : Except Error String :=
  if d.isOpen then .ok d.path else .error .closedDirectory

/-- Visits all names in order. The cursor and the open state do not matter. -/
def each {m : Type → Type} [Monad m] (d : Dir) (visit : String → m Unit) : m Unit :=
  d.names.forM visit

variable {F : Type} [FileSystem F]

/-- The names in a directory; a listing that fails counts as empty. -/
def listing (files : F) (path : String) : List String :=
  match FileSystem.list files path with
  | .ok names => names
  | .error _ => []

/-- Opens the directory at `path` as seen from `base`. -/
def openAt (files : F) (base path : String) : Except Error Dir :=
  let target := Path.resolve base path
  if FileSystem.isDir files target then .ok (ofListing path (listing files target))
  else .error (.notADirectory path)

/-- The names in the directory at `path` as seen from `base`. -/
def entriesAt (files : F) (base path : String) : Except Error (List String) :=
  let target := Path.resolve base path
  if FileSystem.isDir files target then .ok (withDots (listing files target))
  else .error .noSuchDirectory

end Dir

end Dirlang
