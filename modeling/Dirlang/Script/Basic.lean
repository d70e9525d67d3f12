import Dirlang.Index
import Dirlang.Operand.Basic
import Dirlang.Store.Basic

/-!
Scripts: steps that drive a machine, and the reports they leave behind.

A call may be given a body, which is a script again and runs as the block of the call. A step that
fails does not end its script unless it says so; then its error becomes that of the body around it.
-/

namespace Dirlang.Script

/-- What a value is taken from. -/
inductive Expr
  | const (v : Value)
  /-- The value kept under a name; nil if there is none. -/
  | var (name : String)
  /-- An argument of the innermost running body; nil if there is none. -/
  | arg (i : Nat)
  /-- A new list. -/
  | list (items : List Expr)

/-- Functions that a script can register besides the standard ones. -/
inductive Sample
  | zero
  | first
  | list
  | yield
deriving DecidableEq

mutual

/-- What a step does to a machine whose file systems are the elements of `F`. -/
inductive Command (F : Type)
  | call (name : String) (args : List Expr) (block : Option (Body F))
  | method (x : Expr) (name : String) (args : List Expr) (block : Option (Body F))
  | eval (x : Expr)
  | openDir (path : String)
  /-- The value of a constant operand. -/
  | materialize (x : Operand)
  /-- Runs steps in another current directory. -/
  | within (dir : String) (steps : List (Step F)) (result : Expr)
  | release (x : Expr)
  | text (x : Expr)
  | typeName (x : Expr)
  | equal (x y : Expr)
  | items (x : Expr)
  | strings (x : Expr)
  | dir (x : Expr)
  | install (entries : List (String × Sample))
  | installStandard
  | names
  | has (name : String)
  | raise (e : Error)
  /-- Something happens to the file system, or it is exchanged for another. -/
  | editFiles (f : F → F)
  | setEnvironment (vars : Index String) (workDir : Option String)

inductive Step (F : Type)
  | mk (command : Command F) (keepAs : Option String) (propagate : Bool)

/-- Steps, then a value. One invocation, counted from zero, may be set up to fail instead. -/
inductive Body (F : Type)
  | mk (steps : List (Step F)) (result : Expr) (failing : Option (Nat × Error))

end

/-- What a step that succeeds has to show. -/
inductive Answer
  /-- A value; lists and directories come with their text. -/
  | value (v : Value) (text : Option String)
  | bool (b : Bool)
  | text (s : String)
  | values (vs : List Value)
  | strings (names : List String)
  | dir (d : Dir)
  | done
  | notConstant

mutual

/-- How a step ended, the state it left, and what ran inside it. -/
inductive Report
  | mk (outcome : Except Error Answer) (currentDir : String) (live : Nat) (inside : List Trace)

inductive Trace
  /-- An invocation of a block. -/
  | invocation (args : List Value) (result : Except Error Value) (steps : List Report)
  /-- The steps run in another current directory. -/
  | scope (steps : List Report)

end

/-- What a script remembers while it runs. -/
structure Memory where
  vars : Index Value
  /-- Arguments of the running bodies, innermost first. -/
  frames : List (List Value)
  /-- For each running call, innermost first, the invocations of its block so far. -/
  logs : List (List Trace)

def Memory.empty : Memory := ⟨[], [], []⟩

end Dirlang.Script
