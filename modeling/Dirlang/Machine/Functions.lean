import Dirlang.Machine.Methods

/-!
Functions on directories, and calls by name.

Arguments are checked first: their number, then their types. Paths are seen from the current
directory, while errors quote them as they were given.
-/

namespace Dirlang

variable {E : Embedding} {M : Type → Type} [MonadMachine E M]

namespace Action

open Value

/-- The only argument, a string. -/
def onlyStr (args : List Value) : Except Error String := do (← onlyOf args).expectStr

/-- Opens a directory, for a block only as long as the block runs. It is looked up again to be
closed, so that a block which released it makes the call fail. -/
def openDirFor (path : String) (block : Option (Block M)) : M Value := do
  let v ← openDir path
  let some block := block | return v
  let outcome ← attempt (block [v])
  updateDir v Dir.close
  match outcome with
  | .ok _ => return .nil
  | .error e => throw e

/-- Calls the block with each name in a directory. -/
def foreach (path : String) (block : Option (Block M)) : M Value := do
  let v ← openDir path
  let outcome ← attempt (method v [] block .each)
  let _ ← release v
  match outcome with
  | .ok _ => return .nil
  | .error e => throw e

/-- Calls the block with each path that fits the pattern, or lists them all. -/
def glob (pattern : String) (block : Option (Block M)) : M Value := do
  let m ← look
  match FileSystem.glob m.files m.currentDir pattern with
  | .error e => throw (.systemCall e)
  | .ok paths =>
    match block with
    | none => newStrings paths
    | some block =>
      paths.forM fun path => discard (block [.str path])
      return .nil

/-- Goes to another directory, for a block only as long as the block runs. The block gets the path
as it was given. -/
def chdir (path : String) (block : Option (Block M)) : M Value := do
  let m ← look
  let target := m.resolve path
  if FileSystem.isDir m.files target then
    let real := match FileSystem.canonicalize m.files target with
      | .ok real => real
      | .error _ => target
    match block with
    | some block => within real (block [.str path])
    | none =>
      perform (.goTo real)
      return .int 0
  else throw (.notADirectory path)

/-- Removes an empty directory. -/
def rmdir (path : String) : M Value := do
  let m ← look
  let target := m.resolve path
  if FileSystem.isDir m.files target then
    let removed := FileSystem.removeDir m.files target
    perform (.files removed.2)
    match removed.1 with
    | .ok () => return .int 0
    | .error e => throw (.systemCall (e ++ " - " ++ path))
  else throw (.notADirectory path)

/-- Makes a directory and those above it. The answer is 0, or 1 if the file system refused. -/
def mkdir (path : String) : M Value := do
  let m ← look
  let target := m.resolve path
  if FileSystem.isDir m.files target then throw (.alreadyExists path)
  else
    let made := FileSystem.createDirAll m.files target
    perform (.files made.2)
    match made.1 with
    | .ok () => return .int 0
    | .error _ => return .int 1

/-- A standard function with its arguments. -/
def standard (args : List Value) (block : Option (Block M)) : DirFunction → M Value
  | .newDir => do openDir (← onlyStr args)
  | .openDir => do openDirFor (← onlyStr args) block
  | .entries => do
    let path ← onlyStr args
    let m ← look
    newStrings (← Dir.entriesAt m.files m.currentDir path)
  | .foreach => do foreach (← onlyStr args) block
  | .glob => do glob (← onlyStr args) block
  | .chdir => match args with
    | [] => do chdir (← (← look).home) block
    | [v] => do chdir (← v.expectStr) block
    | _ => throw (.arity 0 1 args.length)
  | .chroot => do
    let _ ← onlyOf args
    throw .noChroot
  | .getwd => do
    noneOf args
    return .str (← look).currentDir
  | .mkdir => match args with
    | [v] | [v, _] => do mkdir (← v.expectStr)
    | _ => throw (.arity 1 2 args.length)
  | .rmdir => do rmdir (← onlyStr args)

end Action

/-- What the functions of an embedding do. -/
class Extension (E : Embedding) where
  run {M : Type → Type} [MonadMachine E M] :
    E.Extra → List Value → Option (Block M) → M Value

namespace Action

variable [Extension E]

def callFunction (f : Function E) (args : List Value) (block : Option (Block M)) :
    M Value :=
  match f with
  | .standard f => standard args block f
  | .extra f => Extension.run f args block

/-- Calls a function by its name. -/
def call (name : String) (args : List Value) (block : Option (Block M)) : M Value := do
  let m ← look
  match m.functions.find? name with
  | some f => callFunction f args block
  | none => throw (.noMethod name "runtime")

end Action

end Dirlang
