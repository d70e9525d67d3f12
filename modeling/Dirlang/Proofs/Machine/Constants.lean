import Mathlib
import Dirlang.Proofs.Constant.Pool
import Dirlang.Proofs.Machine.Calls
import Dirlang.Proofs.Store.Layout
import Dirlang.Proofs.Store.Walks

/-!
Constants on a machine: what becomes of them in its store, and that it makes no difference whether
they were indexed before or are indexed there.
-/

namespace Dirlang.Machine

open Constant (arrays spelled text)

variable {E : Embedding} {m : Machine E}

/-- **Constants become values faithfully, and nothing else changes.** The value of a constant reads
back as the constant with its symbols spelled as strings, and as nothing else. Of the machine only
the store changes. Objects that were there stay as they are; one list comes for each array, in
the slots that come up next, which are all different and were empty. They are taken inside out,
from left to right, and each list but the outermost is an item of exactly one of the others. The
text of the value is that of the constant. -/
theorem materialize_faithful (hm : m.Reachable) (c : Constant) :
    let made := m.store.materialize c
    let taken := m.store.upcoming c.arrays
    m.run (Action.materialize c) = (.ok made.1, { m with store := made.2 }) ∧
    (∀ t, made.2.Holds made.1 t ↔ t = c.spelled) ∧
    (∀ r o, m.store.get? r = some o → made.2.get? r = some o) ∧
    (∀ r, r ∉ taken → made.2.get? r = m.store.get? r) ∧
    made.2.size = m.store.size + c.arrays ∧
    (taken.length = c.arrays ∧ taken.Nodup ∧ ∀ r ∈ taken, m.store.get? r = none) ∧
    made.2.Laid made.1 c taken ∧
    (∀ q ∈ taken, made.1 ≠ .list q → ∃! r, r ∈ taken ∧ made.2.Links r q) ∧
    made.2.text? made.1 = some c.text := by
  intro made taken
  have h : m.store.Consistent := hm.consistent
  obtain ⟨htakes, hlaid, hholds⟩ := Store.materialize_laid c m.store h
  have hnodup : taken.Nodup := Store.nodup_upcoming h _
  have htext : made.2.text? made.1 = some c.text := by
    have hgrown : made.2.size = m.store.size + c.arrays := htakes.size_eq
    have hsize : made.2.size ≤ made.2.slots.size := Nat.sub_le _ _
    have hdepth : c.spelled.arrays ≤ made.2.slots.size + 1 := by
      rw [Constant.arrays_spelled]
      omega
    rw [← Constant.text_spelled]
    exact hholds.textWithin_eq hdepth
  exact ⟨run_materialize c m, hholds.iff, htakes.keeps h, htakes.get?_eq, htakes.size_eq,
    ⟨Store.length_upcoming _ _, hnodup, fun _ => Store.get?_upcoming h⟩, hlaid,
    fun _ hq hne => hlaid.existsUnique_links hnodup hq hne, htext⟩

/-- With two free slots, the inner lists get these, the one freed last first, and the outermost a
new one. -/
theorem materialize_faithful_reusing :
    let es : List (Event (Script.scene Catalog)) :=
      [.alloc (.list []), .alloc (.list []), .release (.list ⟨0⟩), .release (.list ⟨1⟩)]
    let m := atRoot.afterAll es
    let c : Constant := .array [.array [], .symbol "a", .array [.int 7]]
    let made := m.store.materialize c
    m.Reachable ∧ m.store.upcoming c.arrays = [⟨1⟩, ⟨0⟩, ⟨2⟩] ∧ made.1 = .list ⟨2⟩ ∧
      (∀ t, made.2.Holds made.1 t ↔ t = .array [.array [], .str "a", .array [.int 7]]) ∧
      (∃! r, r ∈ m.store.upcoming c.arrays ∧ made.2.Links r ⟨0⟩) ∧
      made.2.text? made.1 = some "[[], a, [7]]" := by
  intro es m c made
  have hm : m.Reachable := reachable_atRoot.afterAll es
  obtain ⟨-, hholds, -, -, -, -, -, hparent, htext⟩ := materialize_faithful hm c
  exact ⟨hm, rfl, rfl, hholds, hparent ⟨0⟩ (by decide) (by decide), htext⟩

/-- **Folding before lowering makes no difference.** Accesses to a constant array can be folded
just as far as what they come to is an array. The operand that is left is constant, its constant is
what any pool with room gives for it, and the value of that, in any store, reads back as the same
tree as what the accesses find in the value of the whole array. -/
theorem fold_then_materialize (hm : m.Reachable) {p : Pool} (hroom : p.size < 2 ^ 32)
    {xs : List Operand} (hxs : (Operand.array xs).isConstant) (accesses : List Access) :
    let x := Operand.array xs
    ((x.foldAll accesses).isSome ↔ ∀ before a rest, accesses = before ++ a :: rest →
      ∃ es, x.foldAll before = some (.array es)) ∧
    ∀ y, x.foldAll accesses = some y → y.isConstant ∧
      ∃ i c d, x.toConstant? = some c ∧ y.toConstant? = some d ∧
        (p.intern y).1 = some i ∧ (p.intern y).2.get? i = some d ∧
        let whole := m.store.materialize c
        let part := m.store.materialize d
        ∃ found, whole.2.walk whole.1 accesses = .ok found ∧
          part.2.Holds part.1 d.spelled ∧
          ∀ t, part.2.Holds part.1 t ↔ found.2.Holds found.1 t := by
  intro x
  refine ⟨Operand.isSome_foldAll_iff accesses, fun y hy => ?_⟩
  have h : m.store.Consistent := hm.consistent
  obtain ⟨c, hc⟩ := Operand.isConstant_iff.mp hxs
  obtain ⟨htakes, -, hwhole⟩ := Store.materialize_laid c m.store h
  obtain ⟨found, hwalk, -, d, hd, hfound⟩ :=
    Store.walk_reflects ⟨htakes.consistent, c, hc, hwhole⟩ accesses hy
  obtain ⟨i, hi, hget⟩ := Pool.exists_get?_intern hroom hd
  obtain ⟨-, -, hpart⟩ := Store.materialize_laid d m.store h
  refine ⟨Operand.isConstant_iff.mpr ⟨d, hd⟩, i, c, d, hc, hd, hi, hget, found, hwalk, hpart,
    fun t => ?_⟩
  rw [hpart.iff, hfound.iff]

/-- A splat and then an index past the end: nil, whether folded or found in the store. -/
theorem fold_then_materialize_past_end :
    let x : List Operand := [.int 1, .array [.literal (.symbol "a")]]
    let accesses : List Access := [⟨1, true⟩, ⟨0, false⟩, ⟨5, false⟩]
    atRoot.Reachable ∧ Pool.empty.size < 2 ^ 32 ∧ (Operand.array x).isConstant ∧
      (Operand.array x).foldAll accesses = some .nil ∧
      ∃ c found, (Operand.array x).toConstant? = some c ∧
        (atRoot.store.materialize c).2.walk (atRoot.store.materialize c).1 accesses = .ok found ∧
        found.2.Holds found.1 .nil := by
  intro x accesses
  have hfold : (Operand.array x).foldAll accesses = some .nil := rfl
  have hroom : Pool.empty.size < 2 ^ 32 := by decide
  have hx : (Operand.array x).isConstant := rfl
  obtain ⟨-, hall⟩ := fold_then_materialize reachable_atRoot hroom hx accesses
  obtain ⟨-, i, c, d, hc, hd, -, -, found, hwalk, hpart, hsame⟩ := hall .nil hfold
  obtain rfl : Constant.nil = d := Option.some.inj hd
  exact ⟨reachable_atRoot, hroom, hx, hfold, c, found, hc, hwalk, (hsame .nil).mp hpart⟩

end Dirlang.Machine
