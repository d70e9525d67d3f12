import Dirlang.Double
import Dirlang.Error

/-!
Values that programs compute with. Lists and directories are references into the store; copies
of a reference are equal and none keeps its object alive.
-/

namespace Dirlang

/-- A reference to a slot of the store. -/
structure Ref where
  slot : Nat
deriving DecidableEq, Inhabited

inductive Value
  | nil
  | bool (b : Bool)
  | int (i : Int64)
  | float (x : Double)
  | str (s : String)
  | list (r : Ref)
  | dir (r : Ref)
deriving DecidableEq, Inhabited

namespace Value

def isNil (v : Value) : Bool := v = .nil

def str? : Value → Option String
  | .str s => some s
  | _ => none

def int? : Value → Option Int64
  | .int i => some i
  | _ => none

/-- The reference that a list or a directory consists of. -/
def ref? : Value → Option Ref
  | .list r | .dir r => some r
  | _ => none

def typeName : Value → String
  | .nil => "nil"
  | .bool _ => "bool"
  | .int _ => "int"
  | .float _ => "float"
  | .str _ => "str"
  | .list _ => "list"
  | .dir _ => "Dir"

/-- Equality with doubles compared as numbers. -/
def numEq : Value → Value → Bool
  | .float x, .float y => x.numEq y
  | v, w => v == w

def mismatch (expected : String) (v : Value) : Error := .typeMismatch expected v.typeName

def expectStr (v : Value) : Except Error String :=
  match v.str? with
  | some s => .ok s
  | none => .error (v.mismatch "str")

def expectInt (v : Value) : Except Error Int64 :=
  match v.int? with
  | some i => .ok i
  | none => .error (v.mismatch "int")

end Value

end Dirlang
