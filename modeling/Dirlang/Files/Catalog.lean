import Dirlang.Files.Basic
import Dirlang.Index

/-!
A file system kept as a catalogue: a listing for each directory, by its exact path, and calls that
are set up to fail.
-/

namespace Dirlang

/-- Errors, by the path or the pattern of the call that fails. -/
structure Failures (α : Type) where
  list : Index α
  canonicalize : Index α
  remove : Index α
  create : Index α
  glob : Index α

structure Catalog where
  dirs : Index (List String)
  canonical : Index String
  hits : Index (List String)
  failures : Failures String

namespace Catalog

def empty : Catalog := ⟨[], [], [], ⟨[], [], [], [], []⟩⟩

/-- Changes to a catalogue. -/
structure Change where
  dirs : Index (Option (List String))
  canonical : Index (Option String)
  hits : Index (Option (List String))
  failures : Failures (Option String)

def change (c : Catalog) (d : Change) : Catalog where
  dirs := c.dirs.update d.dirs
  canonical := c.canonical.update d.canonical
  hits := c.hits.update d.hits
  failures := {
    list := c.failures.list.update d.failures.list
    canonicalize := c.failures.canonicalize.update d.failures.canonicalize
    remove := c.failures.remove.update d.failures.remove
    create := c.failures.create.update d.failures.create
    glob := c.failures.glob.update d.failures.glob }

/-- Fails with the text set up for a key, if there is one. -/
def unlessSet {α : Type} (failures : Index String) (key : String) (otherwise : Except String α) :
    Except String α :=
  match failures.find? key with
  | some text => .error text
  | none => otherwise

def isDir (c : Catalog) (path : String) : Bool := (c.dirs.find? path).isSome

def list (c : Catalog) (path : String) : Except String (List String) :=
  unlessSet c.failures.list path <| match c.dirs.find? path with
    | some names => .ok names
    | none => .error "No such file or directory"

def canonicalize (c : Catalog) (path : String) : Except String String :=
  unlessSet c.failures.canonicalize path (.ok ((c.canonical.find? path).getD path))

def removeDir (c : Catalog) (path : String) : Except String Unit × Catalog :=
  match c.failures.remove.find? path, c.dirs.find? path with
  | some text, _ => (.error text, c)
  | none, none => (.error "No such file or directory", c)
  | none, some [] => (.ok (), { c with dirs := c.dirs.remove path })
  | none, some (_ :: _) => (.error "Directory not empty", c)

def createDirAll (c : Catalog) (path : String) : Except String Unit × Catalog :=
  match c.failures.create.find? path with
  | some text => (.error text, c)
  | none => if c.isDir path then (.ok (), c) else (.ok (), { c with dirs := c.dirs.put path [] })

/-- Matches are set up by base and pattern together, or by pattern alone. -/
def glob (c : Catalog) (base pattern : String) : Except String (List String) :=
  unlessSet c.failures.glob pattern <|
    .ok <| ((c.hits.find? (base ++ "|" ++ pattern)).orElse
      fun _ => c.hits.find? pattern).getD []

instance : FileSystem Catalog where
  isDir := isDir
  list := list
  canonicalize := canonicalize
  removeDir := removeDir
  createDirAll := createDirAll
  glob := glob

end Catalog

end Dirlang
