import Dirlang.Double

/-!
Operands: the values an optimiser computes with before a program is lowered.

Equality (`=`) is structural, with doubles told apart by their bits. `Operand.numEq` compares the
doubles inside as numbers and agrees with equality on everything else.
-/

namespace Dirlang

inductive Literal
  | bool (b : Bool)
  | int (i : Int64)
  | float (x : Double)
  | str (s : String)
  | symbol (name : String)
deriving DecidableEq

/-- Where a variable lives: how many scopes out, and at which index there. -/
structure Slot where
  depth : UInt32
  index : UInt32
deriving DecidableEq

structure Variable where
  name : String
  slot : Option Slot
deriving DecidableEq

inductive Operand
  | nil
  | literal (l : Literal)
  | var (v : Variable)
  | array (elements : List Operand)

def Literal.numEq : Literal → Literal → Bool
  | .float x, .float y => x.numEq y
  | l, k => l == k

namespace Operand

def int (i : Int64) : Operand := .literal (.int i)

def isNil : Operand → Bool
  | .nil => true
  | _ => false

mutual

/-- Equality with doubles compared as numbers. -/
def numEq : Operand → Operand → Bool
  | .nil, .nil => true
  | .literal l, .literal k => l.numEq k
  | .var v, .var w => v == w
  | .array xs, .array ys => numEqAll xs ys
  | _, _ => false

def numEqAll : List Operand → List Operand → Bool
  | [], [] => true
  | x :: xs, y :: ys => numEq x y && numEqAll xs ys
  | _, _ => false

end

end Operand

end Dirlang
