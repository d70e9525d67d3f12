import Dirlang.Files.OsError
import Dirlang.Path.Basic
import Dirlang.Path.Component
import Dirlang.Text.Utf8

/-!
A tree of directories, files and symbolic links, and the calls on it that resolve paths.

A path is walked piece by piece. A link is followed wherever more of the path comes after it; the
number of links on one walk is limited, so that links in a circle are an error.
-/

namespace Dirlang

inductive Node
  | file
  | link (target : String)
  | dir (entries : List (String × Node))

namespace Node

def isDir : Node → Bool
  | .dir _ => true
  | _ => false

def child? (n : Node) (name : String) : Option Node :=
  match n with
  | .dir entries => entries.lookup name
  | _ => none

/-- The node at a location: the names on the way to it. -/
def at? (n : Node) (location : List String) : Option Node := location.foldlM child? n

/-- Changes the entries of the directory at a location. -/
def edit (f : List (String × Node) → List (String × Node)) : List String → Node → Node
  | [], .dir entries => .dir (f entries)
  | name :: location, .dir entries =>
    .dir (entries.map fun (k, n) => if k = name then (k, edit f location n) else (k, n))
  | _, n => n

/-- Puts an entry at its place in the order of the names. -/
def insert (name : String) (n : Node) : List (String × Node) → List (String × Node)
  | [] => [(name, n)]
  | (k, m) :: entries =>
    if name < k then (name, n) :: (k, m) :: entries else (k, m) :: insert name n entries

end Node

/-- A file tree and the location from which relative paths are walked. -/
structure Tree where
  root : Node
  workDir : List String

namespace Tree

def empty : Tree := ⟨.dir [], []⟩

/-- The longest name of an entry, in bytes. -/
def longestName : Nat := 255

/-- The first length, in bytes, at which a path is too long. -/
def pathLimit : Nat := 4096

/-- The most links that are followed on one walk. -/
def linkLimit : Nat := 40

/-- Walks on from a location. Unless `final` is set, a link at the very end is not followed. -/
def walk (root : Node) (final : Bool) (links : Nat) (here : List String) (todo : List String) :
    Except OsError (List String × Node) :=
  match todo, root.at? here with
  | _, none => .error .notFound
  | [], some n => .ok (here, n)
  | piece :: todo, some (.dir entries) =>
    if piece = "" || piece = "." then walk root final links here todo
    else if piece = ".." then walk root final links here.dropLast todo
    else if longestName < piece.utf8ByteSize then .error .nameTooLong
    else match entries.lookup piece with
      | none => .error .notFound
      | some (.link target) =>
        if todo.isEmpty && !final then .ok (here ++ [piece], .link target)
        else match links with
          | 0 => .error .tooManyLinks
          | links + 1 =>
            let start := if Path.isAbsolute target then [] else here
            walk root final links start (Path.pieces target ++ todo)
      | some _ => walk root final links (here ++ [piece]) todo
  | _ :: _, some _ => .error .notADirectory
termination_by (links, todo.length)

/-- Where the walk along a path starts, and the text of the path checked. -/
def start (t : Tree) (path : String) : Except OsError (List String) :=
  if path = "" then .error .notFound
  else if path.toList.any (· = '\x00') then .error .badName
  else if pathLimit ≤ path.utf8ByteSize then .error .nameTooLong
  else .ok (if Path.isAbsolute path then [] else t.workDir)

/-- The location of a path and what is there. -/
def locate (t : Tree) (path : String) (final : Bool) : Except OsError (List String × Node) :=
  (t.start path).bind fun s => walk t.root final linkLimit s (Path.pieces path)

def isDir (t : Tree) (path : String) : Bool :=
  match t.locate path true with
  | .ok (_, n) => n.isDir
  | .error _ => false

/-- Something has this name, be it a link that leads nowhere. -/
def isPresent (t : Tree) (path : String) : Bool := (t.locate path false).toBool

/-- The names in a directory, in order. -/
def list (t : Tree) (path : String) : Except OsError (List String) :=
  match t.locate path true with
  | .ok (_, .dir entries) => .ok (entries.map (·.1))
  | .ok _ => .error .notADirectory
  | .error e => .error e

/-- The text of a location. -/
def spell (location : List String) : String := "/" ++ Path.ofPieces location

def canonicalize (t : Tree) (path : String) : Except OsError String :=
  (t.locate path true).map fun (location, _) => spell location

/-- The directory that holds the last name of a path: its location, its entries and that name,
which is missing for the root itself. -/
def holder (t : Tree) (path : String) :
    Except OsError (List String × List (String × Node) × Option String) :=
  (t.start path).bind fun s =>
    let (last, above) := match (Path.pieces path).reverse.dropWhile (· = "") with
      | [] => (none, [])
      | name :: above => (some name, above.reverse)
    (walk t.root true linkLimit s above).bind fun
      | (location, .dir entries) => .ok (location, entries, last)
      | _ => .error .notADirectory

/-- Makes one directory. -/
def makeDir (t : Tree) (path : String) : Except OsError Tree :=
  (t.holder path).bind fun
    | (_, _, none) => .error .exists
    | (location, entries, some name) =>
      if name = "." || name = ".." then .error .exists
      else if longestName < name.utf8ByteSize then .error .nameTooLong
      else if (entries.lookup name).isSome then .error .exists
      else .ok { t with root := t.root.edit (Node.insert name (.dir [])) location }

/-- Removes an empty directory. -/
def removeDir (t : Tree) (path : String) : Except OsError Tree :=
  (t.holder path).bind fun
    | (_, _, none) => .error .busy
    | (location, entries, some name) =>
      if name = "." then .error .invalid
      else if name = ".." then .error .notEmpty
      else match entries.lookup name with
        | none => .error .notFound
        | some (.dir []) =>
          .ok { t with root := t.root.edit (·.filter fun (k, _) => k ≠ name) location }
        | some (.dir _) => .error .notEmpty
        | some _ => .error .notADirectory

/-- Makes a directory or finds it there; none where the directory above it is missing. -/
def ensureDir (t : Tree) (path : String) : Option (Except OsError Unit × Tree) :=
  if path = "" then some (.ok (), t)
  else match t.makeDir path with
    | .ok t => some (.ok (), t)
    | .error .notFound => none
    | .error e => some (if t.isDir path then .ok () else .error e, t)

/-- Makes a directory, and where it has to the directories above it, which are given nearest
first. -/
def ensureDirs (t : Tree) (path : String) : List String → Except OsError Unit × Tree
  | [] => (t.ensureDir path).getD (.error .noRoot, t)
  | dir :: dirs =>
    match t.ensureDir path with
    | some made => made
    | none =>
      match ensureDirs t dir dirs with
      | (.error e, t) => (.error e, t)
      | (.ok (), t) => (t.ensureDir path).getD (.error .notFound, t)

/-- The directories above a path, nearest first. -/
def above (path : String) : List String := (RawPath.parents (Text.utf8 path)).map Text.lossy

def createDirAll (t : Tree) (path : String) : Except OsError Unit × Tree :=
  t.ensureDirs path (above path)

/-- A tree with one directory at an absolute path, which is where relative paths start. -/
def withRoot (path : String) : Tree :=
  let t := (empty.createDirAll path).2
  match t.locate path true with
  | .ok (location, _) => { t with workDir := location }
  | .error _ => t

/-- Starts relative paths elsewhere. -/
def moveTo (t : Tree) (path : String) : Tree :=
  match t.locate path true with
  | .ok (location, .dir _) => { t with workDir := location }
  | _ => t

end Tree

end Dirlang
