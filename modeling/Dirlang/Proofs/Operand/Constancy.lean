import Mathlib
import Dirlang.Constant.Basic
import Dirlang.Operand.Fold

/-!
Operands that stand for constants.

Such an operand is one in which no variable occurs. The constant that it stands for has its shape,
node for node, so that it can be told from the constant.
-/

namespace Dirlang

mutual

/-- The operand that stands for a constant. -/
def Constant.operand : Constant → Operand
  | .nil => .nil
  | .bool b => .literal (.bool b)
  | .int i => .literal (.int i)
  | .float x => .literal (.float x)
  | .str s => .literal (.str s)
  | .symbol name => .literal (.symbol name)
  | .array cs => .array (Constant.operands cs)

def Constant.operands : List Constant → List Operand
  | [] => []
  | c :: cs => c.operand :: Constant.operands cs

end

namespace Operand

mutual

/-- Constant operands are those that stand for a constant. -/
theorem isSome_toConstant? : (x : Operand) → x.toConstant?.isSome = x.isConstant
  | .nil | .literal _ | .var _ => rfl
  | .array xs => by
    have hxs := isSome_toConstants? xs
    simpa [toConstant?, isConstant] using hxs

theorem isSome_toConstants? : (xs : List Operand) → (toConstants? xs).isSome = allConstant xs
  | [] => rfl
  | x :: xs => by
    have hx := isSome_toConstant? x
    have hxs := isSome_toConstants? xs
    rw [toConstants?, allConstant, ← hx, ← hxs]
    cases x.toConstant? <;> simp

end

lemma isConstant_iff {x : Operand} : x.isConstant ↔ ∃ c, x.toConstant? = some c := by
  rw [← isSome_toConstant?, Option.isSome_iff_exists]

lemma toConstant?_eq_none_iff {x : Operand} : x.toConstant? = none ↔ ¬ x.isConstant := by
  rw [← isSome_toConstant?, Option.not_isSome_iff_eq_none]

lemma toConstant?_array_eq_some_iff {xs : List Operand} {c : Constant} :
    (array xs).toConstant? = some c ↔ ∃ cs, toConstants? xs = some cs ∧ c = .array cs := by
  rw [toConstant?, Option.map_eq_some_iff]
  exact exists_congr fun cs => and_congr_right fun _ => eq_comm

lemma toConstants?_cons_eq_some_iff {x : Operand} {xs : List Operand} {cs : List Constant} :
    toConstants? (x :: xs) = some cs ↔
      ∃ d ds, x.toConstant? = some d ∧ toConstants? xs = some ds ∧ cs = d :: ds := by
  rw [toConstants?]
  cases x.toConstant? <;> cases toConstants? xs <;> simp [eq_comm]

lemma toConstants?_eq_some_iff {xs : List Operand} {cs : List Constant} :
    toConstants? xs = some cs ↔ List.Forall₂ (fun x c => x.toConstant? = some c) xs cs := by
  induction xs generalizing cs with
  | nil => simp [toConstants?, eq_comm]
  | cons x xs ih =>
    rw [toConstants?_cons_eq_some_iff, List.forall₂_cons_left_iff]
    simp only [ih]

mutual

/-- No other operand stands for a constant. -/
theorem eq_operand : (x : Operand) → (c : Constant) → x.toConstant? = some c → x = c.operand
  | .nil, _, h => by cases h; rfl
  | .literal l, _, h => by cases h; cases l <;> rfl
  | .var _, _, h => by cases h
  | .array xs, _, h => by
    obtain ⟨cs, hcs, rfl⟩ := toConstant?_array_eq_some_iff.mp h
    rw [Constant.operand, eq_operands xs cs hcs]

theorem eq_operands : (xs : List Operand) → (cs : List Constant) → toConstants? xs = some cs →
    xs = Constant.operands cs
  | [], _, h => by cases h; rfl
  | x :: xs, _, h => by
    obtain ⟨c, cs, hc, hcs, rfl⟩ := toConstants?_cons_eq_some_iff.mp h
    rw [Constant.operands, ← eq_operand x c hc, ← eq_operands xs cs hcs]

end

/-- Constants are the same just when the operands are that stand for them. -/
lemma toConstant?_inj {x y : Operand} {c d : Constant} (hx : x.toConstant? = some c)
    (hy : y.toConstant? = some d) : c = d ↔ x = y := by
  constructor
  · rintro rfl
    rw [eq_operand x c hx, eq_operand y c hy]
  · rintro rfl
    exact Option.some.inj (hx.symm.trans hy)

end Operand

end Dirlang
