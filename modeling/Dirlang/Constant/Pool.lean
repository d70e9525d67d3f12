import Dirlang.Constant.Basic

/-!
The pool that constants are lowered into. Equal constants share one place, and a place once given
never changes.
-/

namespace Dirlang

structure Pool where
  constants : Array Constant

namespace Pool

def empty : Pool := ⟨#[]⟩

def size (p : Pool) : Nat := p.constants.size

def isEmpty (p : Pool) : Bool := p.constants.isEmpty

def get? (p : Pool) (i : UInt32) : Option Constant := p.constants[i.toNat]?

/-- The place of a constant, appended if the pool does not hold it yet. -/
def place (p : Pool) (c : Constant) : UInt32 × Pool :=
  match p.constants.findIdx? (Constant.same · c) with
  | some i => (.ofNat i, p)
  | none => (.ofNat p.size, ⟨p.constants.push c⟩)

/-- The place of a constant operand; any other operand leaves the pool as it is. -/
def intern (p : Pool) (x : Operand) : Option UInt32 × Pool :=
  match x.toConstant? with
  | none => (none, p)
  | some c => (some (p.place c).1, (p.place c).2)

end Pool

end Dirlang
