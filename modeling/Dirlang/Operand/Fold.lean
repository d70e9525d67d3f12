import Dirlang.Operand.Basic

/-!
Constant folding: which operands are constant, and indexing an array before the program runs.

An index outside the array is no error. A single fetch then gives nil and a splat, which takes
everything from the index on, gives the blank array.
-/

namespace Dirlang.Operand

mutual

/-- No variable occurs in the operand. -/
def isConstant : Operand → Bool
  | .nil => true
  | .literal _ => true
  | .var _ => false
  | .array xs => allConstant xs

def allConstant : List Operand → Bool
  | [] => true
  | x :: xs => isConstant x && allConstant xs

end

theorem allConstant_eq_all (xs : List Operand) : allConstant xs = xs.all isConstant := by
  induction xs with
  | nil => rfl
  | cons x xs ih => simp [allConstant, ih]

/-- Elements of an array operand. -/
def elements? : Operand → Option (List Operand)
  | .array xs => some xs
  | _ => none

/-- The elements an operand spreads to: nil to none, an array to its own, any other to itself. -/
def spread : Operand → List Operand
  | .array xs => xs
  | .nil => []
  | x => [x]

/-- The place an index means in an array, if it is not negative. -/
def place? (i : Int64) : Option Nat := i.toInt.toNat?

/-- The element at `i` of an array with the given elements or, as a splat, those from `i` on. -/
def fetch (xs : List Operand) (i : Int64) (splat : Bool) : Operand :=
  if splat then .array (((place? i).map xs.drop).getD [])
  else ((place? i).bind (xs[·]?)).getD .nil

/-- `x[i]` for an index known beforehand; nothing to fold unless `x` is an array. -/
def fetch? (x : Operand) (i : Int64) (splat : Bool) : Option Operand :=
  x.elements?.map (fetch · i splat)

/-- `x[index]`, where the index has to be an integer literal. -/
def foldIndex (x index : Operand) (splat : Bool) : Option Operand :=
  match index with
  | .literal (.int i) => x.fetch? i splat
  | _ => none

end Dirlang.Operand
