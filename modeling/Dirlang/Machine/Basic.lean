import Dirlang.Index
import Dirlang.Store.Basic
import Dirlang.Table

/-!
The machine: a store, a current directory, the functions that programs can call, and the world
outside, which is a file system and an environment.

Code on a machine sees all of it and changes it event by event. It is written for any monad that
can do both. An `Action` just runs; it may fail, and what it did before it failed stays done. A
`Block` is code that a call runs with arguments of the call's choosing: any code at all.
-/

namespace Dirlang

/-- What a program that embeds the machine brings along. -/
structure Embedding where
  /-- States of the file system. -/
  Files : Type
  [fileSystem : FileSystem Files]
  /-- Functions besides the standard ones. -/
  Extra : Type
  /-- State of its own, which the machine hands on and never looks at. -/
  Data : Type

attribute [instance] Embedding.fileSystem

/-- Functions on directories. -/
inductive DirFunction
  | newDir
  | openDir
  | entries
  | foreach
  | glob
  | chdir
  | chroot
  | getwd
  | mkdir
  | rmdir
deriving DecidableEq

/-- Their names, in order; some go by several. -/
def DirFunction.named : List (String × DirFunction) :=
  [("Dir.new", .newDir), ("Dir.open", .openDir), ("Dir.entries", .entries),
   ("Dir.foreach", .foreach), ("Dir.glob", .glob), ("Dir.[]", .glob), ("Dir.chdir", .chdir),
   ("Dir.chroot", .chroot), ("Dir.getwd", .getwd), ("Dir.pwd", .getwd), ("Dir.mkdir", .mkdir),
   ("Dir.rmdir", .rmdir), ("Dir.unlink", .rmdir), ("Dir.delete", .rmdir)]

/-- A function that programs can call. -/
inductive Function (E : Embedding)
  | standard (f : DirFunction)
  | extra (f : E.Extra)

structure Environment where
  vars : Index String
  /-- The working directory of the process, if it has one. -/
  workDir : Option String

structure Config where
  /-- The variables that name the home directory; the first that is set and not empty counts. -/
  homeVars : List String := ["HOME", "LOGDIR"]
  startDir : Option String := none

structure Machine (E : Embedding) where
  store : Store
  currentDir : String
  functions : Table (Function E)
  files : E.Files
  environment : Environment
  config : Config
  data : E.Data

variable {E : Embedding}

namespace Machine

/-- Registers functions in order; a name that comes again gets the new function. -/
def install (m : Machine E) (entries : List (String × Function E)) : Machine E :=
  { m with functions := m.functions.insertAll entries }

def standard : List (String × Function E) :=
  DirFunction.named.map fun (name, f) => (name, .standard f)

/-- A machine with the standard functions and nothing in its store. -/
def start (config : Config) (files : E.Files) (environment : Environment) (data : E.Data) :
    Machine E :=
  let currentDir := (config.startDir.orElse fun _ => environment.workDir).getD "."
  install ⟨.empty, currentDir, .empty, files, environment, config, data⟩ standard

/-- The home directory. -/
def home (m : Machine E) : Except Error String :=
  let values := m.config.homeVars.filterMap fun name => m.environment.vars.find? name
  match values.find? (· ≠ "") with
  | some dir => .ok dir
  | none => .error (.argument ("/".intercalate m.config.homeVars ++ " not set"))

/-- The path that the file system is asked about. -/
def resolve (m : Machine E) (path : String) : String := Path.resolve m.currentDir path

end Machine

/-- A change that code makes on a machine. -/
inductive Event (E : Embedding)
  | alloc (o : Object)
  | release (v : Value)
  /-- Changes the directory behind a value. -/
  | change (v : Value) (f : Dir → Dir)
  | goTo (dir : String)
  | files (files : E.Files)
  | environment (environment : Environment)
  | install (entries : List (String × Function E))
  | data (data : E.Data)

/-- The machine after an event. -/
def Machine.after (m : Machine E) : Event E → Machine E
  | .alloc o => { m with store := (m.store.alloc o).2 }
  | .release v => { m with store := (m.store.release v).2 }
  | .change v f => { m with store := m.store.updateDir v f }
  | .goTo dir => { m with currentDir := dir }
  | .files files => { m with files := files }
  | .environment environment => { m with environment := environment }
  | .install entries => m.install entries
  | .data data => { m with data := data }

/-- Monads whose code runs on a machine. -/
class MonadMachine (E : outParam Embedding) (M : Type → Type) extends
    Monad M, MonadExceptOf Error M where
  look : M (Machine E)
  perform : Event E → M Unit

export MonadMachine (look perform)

/-- Code that just runs: how it ends, and the machine it leaves. -/
def Action (E : Embedding) (α : Type) : Type := Machine E → Except Error α × Machine E

instance : MonadMachine E (Action E) where
  pure a := fun m => (.ok a, m)
  bind x f := fun m => match x m with
    | (.ok a, m) => f a m
    | (.error e, m) => (.error e, m)
  throw e := fun m => (.error e, m)
  tryCatch x handle := fun m => match x m with
    | (.ok a, m) => (.ok a, m)
    | (.error e, m) => handle e m
  look := fun m => (.ok m, m)
  perform e := fun m => (.ok (), m.after e)

def Machine.run {α : Type} (m : Machine E) (a : Action E α) : Except Error α × Machine E := a m

abbrev Block (M : Type → Type) := List Value → M Value

namespace Action

variable {M : Type → Type} [MonadMachine E M]

/-- What does not depend on the machine. -/
instance (priority := low) : MonadLift (Except Error) M := ⟨MonadExcept.ofExcept⟩

def newList (items : List Value) : M Value := do
  let m ← look
  perform (.alloc (.list items))
  return (m.store.newList items).1

def newStrings (names : List String) : M Value := newList (names.map .str)

def release (v : Value) : M Bool := do
  let m ← look
  perform (.release v)
  return (m.store.release v).1

/-- Opens a directory as seen from the current one. -/
def openDir (path : String) : M Value := do
  let m ← look
  let d ← Dir.openAt m.files m.currentDir path
  perform (.alloc (.dir d))
  return (m.store.newDir d).1

def dir (v : Value) : M Dir := do (← look).store.dir v

/-- Changes the directory behind a value. -/
def updateDir (v : Value) (f : Dir → Dir) : M Unit := do
  let _ ← dir v
  perform (.change v f)

/-- Runs code and answers how it ended. -/
def attempt {α : Type} (body : M α) : M (Except Error α) :=
  tryCatch (do return .ok (← body)) fun e => return .error e

/-- Runs code with another current directory. Whatever comes of it, and wherever it went itself,
the directory is then the one before. -/
def within {α : Type} (dir : String) (body : M α) : M α := do
  let m ← look
  perform (.goTo dir)
  let outcome ← attempt body
  perform (.goTo m.currentDir)
  outcome

end Action

end Dirlang
