import Mathlib
import Dirlang.Proofs.Operand.Constancy
import Dirlang.Proofs.Operand.Folding

/-!
Constant operands and their constants.

Whether an operand is constant and which constant it stands for are found out by two recursions
over its tree. They agree: both succeed if no variable occurs in the tree. The constant is then the
same tree, and as numbers two operands are equal just when their constants are, NaN included, which
equals nothing.
-/

namespace Dirlang

/-- The variable occurs in the operand, at whatever depth. -/
inductive Variable.OccursIn (v : Variable) : Operand → Prop
  | var : v.OccursIn (.var v)
  | element {x : Operand} {xs : List Operand} (hx : x ∈ xs) (h : v.OccursIn x) :
    v.OccursIn (.array xs)

namespace Variable.OccursIn

variable {v w : Variable} {xs : List Operand}

@[simp] lemma var_iff : v.OccursIn (.var w) ↔ v = w := by
  constructor
  · rintro ⟨⟩
    rfl
  · rintro rfl
    exact .var

@[simp] lemma array_iff : v.OccursIn (.array xs) ↔ ∃ x ∈ xs, v.OccursIn x := by
  constructor
  · rintro (_ | ⟨hx, h⟩)
    exact ⟨_, hx, h⟩
  · rintro ⟨x, hx, h⟩
    exact .element hx h

end Variable.OccursIn

mutual

/-- The operand of a constant stands for it. -/
theorem Constant.toConstant?_operand : (c : Constant) → c.operand.toConstant? = some c
  | .nil | .bool _ | .int _ | .float _ | .str _ | .symbol _ => rfl
  | .array cs => by rw [operand, Operand.toConstant?, toConstants?_operands cs, Option.map_some]

theorem Constant.toConstants?_operands : (cs : List Constant) →
    Operand.toConstants? (operands cs) = some cs
  | [] => rfl
  | c :: cs => by
    rw [operands, Operand.toConstants?, toConstant?_operand c, toConstants?_operands cs]
    rfl

end

mutual

/-- Operands of constants are equal as numbers when the constants are. -/
theorem Constant.numEq_operand : (c d : Constant) → c.operand.numEq d.operand = c.numEq d
  | .array cs, .array ds => numEqAll_operands cs ds
  | .nil, d | .bool _, d | .int _, d | .float _, d | .str _, d | .symbol _, d => by
    cases d <;> simp [operand, Operand.numEq, Literal.numEq, numEq]
  | .array cs, d => by cases d <;> simp [operand, Operand.numEq, numEq, numEqAll_operands]

theorem Constant.numEqAll_operands : (cs ds : List Constant) →
    Operand.numEqAll (operands cs) (operands ds) = numEqAll cs ds
  | [], [] | [], _ :: _ | _ :: _, [] => rfl
  | c :: cs, d :: ds => by
    rw [operands, operands, Operand.numEqAll, numEqAll, numEq_operand c d, numEqAll_operands cs ds]

end

namespace Operand

variable {x y : Operand} {xs : List Operand} {c : Constant}

lemma isConstant_array_iff : (array xs).isConstant ↔ ∀ x ∈ xs, x.isConstant := by
  rw [isConstant, allConstant_eq_all, List.all_eq_true]

mutual

/-- An operand is constant when no variable occurs in it. -/
theorem isConstant_iff_not_occursIn : (x : Operand) → (x.isConstant ↔ ∀ v, ¬ Variable.OccursIn v x)
  | .nil | .literal _ => by simpa [isConstant] using fun v => nofun
  | .var w => by simp [isConstant]
  | .array xs => by
    rw [isConstant_array_iff, all_isConstant_iff xs]
    simp only [Variable.OccursIn.array_iff, not_exists, not_and]

theorem all_isConstant_iff : (xs : List Operand) →
    ((∀ x ∈ xs, x.isConstant) ↔ ∀ v, ∀ x ∈ xs, ¬ Variable.OccursIn v x)
  | [] => by simp
  | x :: xs => by
    simp only [List.forall_mem_cons, isConstant_iff_not_occursIn x, all_isConstant_iff xs,
      forall_and]

end

lemma toConstant?_eq_some_iff : x.toConstant? = some c ↔ x = c.operand :=
  ⟨eq_operand x c, fun h => h ▸ c.toConstant?_operand⟩

lemma isConstant_fetch (h : ∀ x ∈ xs, x.isConstant) (i : Int64) (splat : Bool) :
    (fetch xs i splat).isConstant := by
  rw [fetch_eq]
  split
  · exact isConstant_array_iff.mpr fun x hx => h x (mem_of_mem_itemsFrom hx)
  · rcases itemAt_mem_or_eq xs i .nil with hmem | hnil
    · exact h _ hmem
    · rw [hnil]
      rfl

/-- **Constant operands are those that stand for constants.** An operand is constant just when no
variable occurs in it at any depth, and just when it stands for a constant. It stands for a constant
only if the two are the same tree, node for node. Two constant operands are equal as numbers just
when their constants are. From a constant array everything that is fetched is constant. -/
theorem isConstant_iff_evaluates (x : Operand) :
    (x.isConstant ↔ ∀ v, ¬ Variable.OccursIn v x) ∧
    (x.isConstant ↔ x.toConstant?.isSome) ∧
    (∀ c, x.toConstant? = some c ↔ x = c.operand) ∧
    (∀ y : Operand, x.isConstant → y.isConstant →
      (x.numEq y ↔ Option.Rel (fun c d => c.numEq d) x.toConstant? y.toConstant?)) ∧
    (x.isConstant → ∀ xs, x = array xs → ∀ i splat, (fetch xs i splat).isConstant) := by
  refine ⟨isConstant_iff_not_occursIn x, by rw [isSome_toConstant?],
    fun c => toConstant?_eq_some_iff, fun y hx hy => ?_, ?_⟩
  · obtain ⟨c, hc⟩ := isConstant_iff.mp hx
    obtain ⟨d, hd⟩ := isConstant_iff.mp hy
    rw [hc, hd, Option.rel_some_some, toConstant?_eq_some_iff.mp hc,
      toConstant?_eq_some_iff.mp hd, Constant.numEq_operand]
  · rintro hx xs rfl
    exact isConstant_fetch (isConstant_array_iff.mp hx)

/-- A NaN makes an array differ from itself, and its constant as well; the two zeros make equal
arrays. -/
theorem isConstant_iff_evaluates_floats :
    let nan : Operand := .literal (.float ⟨0x7ff8000000000000⟩)
    let odd : Operand := .array [.nil, .array [nan, .literal (.symbol "a")]]
    let zero : Operand := .array [.literal (.float ⟨0⟩)]
    let negZero : Operand := .array [.literal (.float ⟨0x8000000000000000⟩)]
    odd.isConstant ∧ zero.isConstant ∧ negZero.isConstant ∧
      ¬ Option.Rel (fun c d => c.numEq d) odd.toConstant? odd.toConstant? ∧
      Option.Rel (fun c d => c.numEq d) zero.toConstant? negZero.toConstant? ∧
      (fetch [.nil, .array [nan, .literal (.symbol "a")]] 1 true).isConstant := by
  intro nan odd zero negZero
  have hodd : odd.isConstant := rfl
  have hzero : zero.isConstant := rfl
  have hnegZero : negZero.isConstant := rfl
  have hself := (isConstant_iff_evaluates odd).2.2.2.1 odd hodd hodd
  have hzeros := (isConstant_iff_evaluates zero).2.2.2.1 negZero hzero hnegZero
  have hfetch := (isConstant_iff_evaluates odd).2.2.2.2 hodd _ rfl 1 true
  have hdiffers : odd.numEq odd = false := rfl
  rw [hdiffers] at hself
  exact ⟨hodd, hzero, hnegZero, fun h => Bool.false_ne_true (hself.mpr h), hzeros.mp rfl, hfetch⟩

end Operand

end Dirlang
