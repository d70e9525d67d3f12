import Mathlib
import Dirlang.Proofs.Store.Upcoming
import Dirlang.Store.Constants

/-!
The trees that values stand for.

A value is read back by looking up the lists that it consists of, item by item. The tree that this
gives is a constant. No symbols occur in it, for as values they are strings; doubles come back with
the bits that they had. It stays the same as long as no object goes away.
-/

namespace Dirlang

namespace Constant

mutual

/-- The constant with its symbols spelled as strings. -/
def spelled : Constant → Constant
  | .symbol name => .str name
  | .array cs => .array (spelledAll cs)
  | c => c

def spelledAll : List Constant → List Constant
  | [] => []
  | c :: cs => c.spelled :: spelledAll cs

end

lemma spelledAll_eq_map (cs : List Constant) : spelledAll cs = cs.map spelled := by
  induction cs with
  | nil => rfl
  | cons c cs ih => rw [spelledAll, ih, List.map_cons]

end Constant

namespace Store

variable {s s' : Store} {v : Value} {vs : List Value}

mutual

/-- Reading the value back gives the tree. -/
def Holds (s : Store) (v : Value) : Constant → Prop
  | .nil => v = .nil
  | .bool b => v = .bool b
  | .int i => v = .int i
  | .float x => v = .float x
  | .str t => v = .str t
  | .symbol _ => False
  | .array cs => ∃ vs, s.items v = .ok vs ∧ HoldsAll s vs cs

def HoldsAll (s : Store) : List Value → List Constant → Prop
  | [], [] => True
  | v :: vs, c :: cs => Holds s v c ∧ HoldsAll s vs cs
  | _, _ => False

end

lemma items_eq_ok_iff :
    s.items v = .ok vs ↔ ∃ r, v = .list r ∧ s.get? r = some (.list vs) := by
  cases v with
  | list r => simp only [items, Value.list.injEq, exists_eq_left']; split <;> simp_all
  | _ => simp [items]

lemma items_of_keeps (h : s.Keeps s') (hv : s.items v = .ok vs) : s'.items v = .ok vs := by
  obtain ⟨r, rfl, hr⟩ := items_eq_ok_iff.mp hv
  exact items_eq_ok_iff.mpr ⟨r, rfl, h r _ hr⟩

lemma holdsAll_iff {cs : List Constant} : s.HoldsAll vs cs ↔ List.Forall₂ s.Holds vs cs := by
  induction vs generalizing cs with
  | nil => cases cs <;> simp [HoldsAll]
  | cons v vs ih => cases cs <;> simp [HoldsAll, ih]

mutual

/-- New objects leave what was read back as it is. -/
theorem Holds.keeps (h : s.Keeps s') :
    {v : Value} → {c : Constant} → s.Holds v c → s'.Holds v c
  | _, .nil, hv | _, .bool _, hv | _, .int _, hv | _, .float _, hv | _, .str _, hv
  | _, .symbol _, hv => hv
  | _, .array _, ⟨vs, hvs, hcs⟩ => ⟨vs, items_of_keeps h hvs, HoldsAll.keeps h hcs⟩

theorem HoldsAll.keeps (h : s.Keeps s') :
    {vs : List Value} → {cs : List Constant} → s.HoldsAll vs cs → s'.HoldsAll vs cs
  | [], [], _ => trivial
  | _ :: _, _ :: _, ⟨hv, hvs⟩ => ⟨hv.keeps h, HoldsAll.keeps h hvs⟩

end

mutual

/-- Reading a value back gives one tree. -/
theorem Holds.unique :
    {v : Value} → {c d : Constant} → s.Holds v c → s.Holds v d → c = d
  | v, .array cs, d, ⟨vs, hvs, hcs⟩, hd => by
    obtain ⟨r, rfl, hr⟩ := items_eq_ok_iff.mp hvs
    cases d with
    | array ds =>
      obtain ⟨vs', hvs', hds⟩ := hd
      obtain rfl : vs = vs' := Except.ok.inj (hvs.symm.trans hvs')
      rw [HoldsAll.unique hcs hds]
    | _ => simp [Holds] at hd
  | v, .nil, d, hc, hd | v, .bool _, d, hc, hd | v, .int _, d, hc, hd | v, .float _, d, hc, hd
  | v, .str _, d, hc, hd => by
    obtain rfl := hc
    cases d <;> simp_all [Holds, items]
  | _, .symbol _, _, hc, _ => hc.elim

theorem HoldsAll.unique :
    {vs : List Value} → {cs ds : List Constant} → s.HoldsAll vs cs → s.HoldsAll vs ds → cs = ds
  | [], [], [], _, _ => rfl
  | _ :: _, _ :: _, _ :: _, ⟨hc, hcs⟩, ⟨hd, hds⟩ => by
    rw [hc.unique hd, HoldsAll.unique hcs hds]

end

lemma holds_newList {cs : List Constant} (h : s.Consistent) (hall : s.HoldsAll vs cs) :
    (s.newList vs).2.Holds (s.newList vs).1 (.array cs) := by
  have hitems : (s.newList vs).2.items (s.newList vs).1 = .ok vs :=
    items_eq_ok_iff.mpr ⟨s.next, congrArg _ (alloc_fst _ _), get?_alloc_next h _⟩
  exact ⟨vs, hitems, hall.keeps (keeps_alloc h _)⟩

lemma Holds.iff {c : Constant} (h : s.Holds v c) (t : Constant) : s.Holds v t ↔ t = c :=
  ⟨fun ht => ht.unique h, fun ht => ht ▸ h⟩

end Store

end Dirlang
