import Dirlang.Machine.Basic

/-!
Methods of directory values.

Arguments are checked before the value is looked up, and `each` asks for its block in between.
-/

namespace Dirlang

inductive Method
  | close
  | each
  | entries
  | path
  | tell
  | seek
  | setPos
  | read
  | rewind
deriving DecidableEq

namespace Method

/-- Methods by name, in order; `pos` is another name for `tell`. -/
def named : List (String × Method) :=
  [("close", .close), ("each", .each), ("entries", .entries), ("path", .path), ("tell", .tell),
   ("pos", .tell), ("seek", .seek), ("pos=", .setPos), ("read", .read), ("rewind", .rewind)]

def names : List String := named.map (·.1)

def ofName? (name : String) : Option Method := named.lookup name

end Method

/-- No arguments. -/
def Value.noneOf : List Value → Except Error Unit
  | [] => .ok ()
  | args => .error (.arity 0 0 args.length)

/-- The only argument. -/
def Value.onlyOf : List Value → Except Error Value
  | [v] => .ok v
  | args => .error (.arity 1 1 args.length)

variable {E : Embedding} {M : Type → Type} [MonadMachine E M]

namespace Action

open Value

/-- Calls the block with each name of a directory in turn, up to the first call that fails. The
names are those the directory has now, whatever the block does to it. -/
def eachName (d : Dir) (block : Block M) : M Unit :=
  d.each fun name => discard (block [.str name])

/-- A method on a directory value `v`. -/
def method (v : Value) (args : List Value) (block : Option (Block M)) : Method → M Value
  | .close => do
    noneOf args
    updateDir v Dir.close
    return .nil
  | .each => do
    noneOf args
    let some block := block | throw .noBlock
    eachName (← dir v) block
    return v
  | .entries => do
    noneOf args
    newStrings (← dir v).names
  | .path => do
    noneOf args
    return .str (← (← dir v).path?)
  | .tell => do
    noneOf args
    return .int (← dir v).pos
  | .seek => do
    let pos ← (← onlyOf args).expectInt
    updateDir v (·.seek pos)
    return v
  | .setPos => do
    let pos ← (← onlyOf args).expectInt
    updateDir v (·.seek pos)
    return .int pos
  | .read => do
    noneOf args
    let (name, d) ← (← dir v).read
    updateDir v fun _ => d
    return (name.map Value.str).getD .nil
  | .rewind => do
    noneOf args
    updateDir v Dir.rewind
    return .int 0

/-- Calls a method by its name; only directory values have any. -/
def callMethod (v : Value) (name : String) (args : List Value) (block : Option (Block M)) :
    M Value :=
  match v, Method.ofName? name with
  | .dir _, some f => method v args block f
  | _, _ => throw (.noMethod name v.typeName)

end Action

end Dirlang
