import Dirlang.Operand.Basic

/-!
Constants: operands without variables, ready to be lowered.

`Operand.toConstant?` succeeds exactly on constant operands. Equality of constants is decided by
`Constant.same`, which tells doubles apart by their bits; `Constant.numEq` compares them as numbers.
-/

namespace Dirlang

inductive Constant
  | nil
  | bool (b : Bool)
  | int (i : Int64)
  | float (x : Double)
  | str (s : String)
  | symbol (name : String)
  | array (items : List Constant)

namespace Constant

def ofLiteral : Literal → Constant
  | .bool b => .bool b
  | .int i => .int i
  | .float x => .float x
  | .str s => .str s
  | .symbol name => .symbol name

mutual

/-- Equality, with doubles compared by their bits. -/
def same : Constant → Constant → Bool
  | .nil, .nil => true
  | .bool a, .bool b => a == b
  | .int a, .int b => a == b
  | .float a, .float b => a == b
  | .str a, .str b => a == b
  | .symbol a, .symbol b => a == b
  | .array xs, .array ys => sameAll xs ys
  | _, _ => false

def sameAll : List Constant → List Constant → Bool
  | [], [] => true
  | x :: xs, y :: ys => same x y && sameAll xs ys
  | _, _ => false

end

mutual

/-- Equality with doubles compared as numbers. -/
def numEq : Constant → Constant → Bool
  | .nil, .nil => true
  | .bool a, .bool b => a == b
  | .int a, .int b => a == b
  | .float a, .float b => a.numEq b
  | .str a, .str b => a == b
  | .symbol a, .symbol b => a == b
  | .array xs, .array ys => numEqAll xs ys
  | _, _ => false

def numEqAll : List Constant → List Constant → Bool
  | [], [] => true
  | x :: xs, y :: ys => numEq x y && numEqAll xs ys
  | _, _ => false

end

mutual

theorem same_self : (c : Constant) → same c c = true
  | .nil => rfl
  | .bool _ | .int _ | .float _ | .str _ | .symbol _ => by simp [same]
  | .array xs => by simpa [same] using sameAll_self xs

theorem sameAll_self : (cs : List Constant) → sameAll cs cs = true
  | [] => rfl
  | c :: cs => by simp [sameAll, same_self c, sameAll_self cs]

end

mutual

theorem eq_of_same : (c d : Constant) → same c d = true → c = d
  | .nil, d, h => by cases d <;> simp_all [same]
  | .bool _, d, h => by cases d <;> simp_all [same]
  | .int _, d, h => by cases d <;> simp_all [same]
  | .float _, d, h => by cases d <;> simp_all [same]
  | .str _, d, h => by cases d <;> simp_all [same]
  | .symbol _, d, h => by cases d <;> simp_all [same]
  | .array xs, .array ys, h => by rw [eq_of_sameAll xs ys (by simpa [same] using h)]
  | .array _, .nil, h | .array _, .bool _, h | .array _, .int _, h | .array _, .float _, h
  | .array _, .str _, h | .array _, .symbol _, h => by simp [same] at h

theorem eq_of_sameAll : (cs ds : List Constant) → sameAll cs ds = true → cs = ds
  | [], [], _ => rfl
  | [], _ :: _, h | _ :: _, [], h => by simp [sameAll] at h
  | c :: cs, d :: ds, h => by
    simp only [sameAll, Bool.and_eq_true] at h
    rw [eq_of_same c d h.1, eq_of_sameAll cs ds h.2]

end

theorem same_iff {c d : Constant} : same c d = true ↔ c = d :=
  ⟨eq_of_same c d, fun h => h ▸ same_self c⟩

instance : DecidableEq Constant := fun c d => decidable_of_iff (same c d = true) same_iff

end Constant

namespace Operand

mutual

/-- The constant that an operand stands for; none if a variable occurs in it. -/
def toConstant? : Operand → Option Constant
  | .nil => some .nil
  | .literal l => some (.ofLiteral l)
  | .var _ => none
  | .array xs => (toConstants? xs).map .array

def toConstants? : List Operand → Option (List Constant)
  | [] => some []
  | x :: xs => (toConstant? x).bind fun c => (toConstants? xs).map (c :: ·)

end

end Operand

end Dirlang
