import Mathlib
import Dirlang.Proofs.Store.Nesting
import Dirlang.Proofs.Store.Trees

/-!
How constants are laid out in a store.

Each array of a constant becomes a list of its own, which is an item of one other such list, or
the outermost one. They are made inside out and take the slots that come up in this order: the
items of an array from left to right, then the array.
-/

namespace Dirlang

/-- The list that a value consists of, if any. -/
def Value.lists : Value → List Ref
  | .list r => [r]
  | _ => []

namespace Constant

mutual

/-- The number of lists that a constant becomes. -/
def arrays : Constant → ℕ
  | .array cs => arraysAll cs + 1
  | _ => 0

def arraysAll : List Constant → ℕ
  | [] => 0
  | c :: cs => c.arrays + arraysAll cs

end

mutual

/-- The text that a constant has as a value. -/
def text : Constant → String
  | .nil => "nil"
  | .bool b => if b then "true" else "false"
  | .int i => toString i.toInt
  | .float x => x.text Value.floatLayout
  | .str t => t
  | .symbol name => name
  | .array cs => "[" ++ ", ".intercalate (texts cs) ++ "]"

def texts : List Constant → List String
  | [] => []
  | c :: cs => c.text :: texts cs

end

mutual

/-- Symbols read like the strings of their names. -/
theorem text_spelled : (c : Constant) → c.spelled.text = c.text
  | .nil | .bool _ | .int _ | .float _ | .str _ | .symbol _ => rfl
  | .array cs => by rw [spelled, text, text, texts_spelledAll cs]

theorem texts_spelledAll : (cs : List Constant) → texts (spelledAll cs) = texts cs
  | [] => rfl
  | c :: cs => by rw [spelledAll, texts, texts, text_spelled c, texts_spelledAll cs]

end

mutual

theorem arrays_spelled : (c : Constant) → c.spelled.arrays = c.arrays
  | .nil | .bool _ | .int _ | .float _ | .str _ | .symbol _ => rfl
  | .array cs => by rw [spelled, arrays, arrays, arraysAll_spelledAll cs]

theorem arraysAll_spelledAll : (cs : List Constant) → arraysAll (spelledAll cs) = arraysAll cs
  | [] => rfl
  | c :: cs => by
    rw [spelledAll, arraysAll, arraysAll, arrays_spelled c, arraysAll_spelledAll cs]

end

end Constant

namespace Store

variable {s s' : Store}

/-! ### Texts -/

mutual

/-- What reads back as a tree has the text of the tree. -/
theorem Holds.textWithin_eq :
    {v : Value} → {c : Constant} → s.Holds v c → {depth : ℕ} → c.arrays ≤ depth →
      s.textWithin depth v = some c.text
  | _, .nil, rfl, _, _ | _, .bool _, rfl, _, _ | _, .int _, rfl, _, _ | _, .float _, rfl, _, _
  | _, .str _, rfl, _, _ => by simp only [textWithin, Constant.text]
  | _, .symbol _, hv, _, _ => hv.elim
  | _, .array cs, ⟨vs, hvs, hcs⟩, depth + 1, hdepth => by
    obtain ⟨r, rfl, hr⟩ := items_eq_ok_iff.mp hvs
    have htexts := hcs.mapM_textWithin_eq (Nat.le_of_succ_le_succ hdepth)
    simp only [textWithin, hr, htexts, Option.map_some, Constant.text]

theorem HoldsAll.mapM_textWithin_eq :
    {vs : List Value} → {cs : List Constant} → s.HoldsAll vs cs → {depth : ℕ} →
      Constant.arraysAll cs ≤ depth → vs.mapM (s.textWithin depth) = some (Constant.texts cs)
  | [], [], _, _, _ => rfl
  | v :: vs, c :: cs, ⟨hv, hvs⟩, depth, hdepth => by
    rw [Constant.arraysAll] at hdepth
    have htext : s.textWithin depth v = some c.text := hv.textWithin_eq (by omega)
    have htexts : vs.mapM (s.textWithin depth) = some (Constant.texts cs) :=
      hvs.mapM_textWithin_eq (by omega)
    simp [htext, htexts, Constant.texts]

end

/-! ### Slots -/

mutual

/-- The lists that a value for the constant consists of fill the slots, in order: those of the
items from left to right, then the one with the items. -/
def Laid (s : Store) (v : Value) : Constant → List Ref → Prop
  | .array cs, rs => ∃ vs below r, v = .list r ∧ s.get? r = some (.list vs) ∧
      rs = below ++ [r] ∧ LaidAll s vs cs below
  | _, rs => v.ref? = none ∧ rs = []

def LaidAll (s : Store) : List Value → List Constant → List Ref → Prop
  | [], [], rs => rs = []
  | v :: vs, c :: cs, rs =>
    ∃ these those, rs = these ++ those ∧ Laid s v c these ∧ LaidAll s vs cs those
  | _, _, _ => False

end

mutual

theorem Laid.keeps (h : s.Keeps s') :
    {v : Value} → {c : Constant} → {rs : List Ref} → s.Laid v c rs → s'.Laid v c rs
  | _, .nil, _, hv | _, .bool _, _, hv | _, .int _, _, hv | _, .float _, _, hv
  | _, .str _, _, hv | _, .symbol _, _, hv => hv
  | _, .array _, _, ⟨vs, below, r, hv, hr, hrs, hall⟩ =>
    ⟨vs, below, r, hv, h r _ hr, hrs, hall.keeps h⟩

theorem LaidAll.keeps (h : s.Keeps s') :
    {vs : List Value} → {cs : List Constant} → {rs : List Ref} → s.LaidAll vs cs rs →
      s'.LaidAll vs cs rs
  | [], [], _, hrs => hrs
  | _ :: _, _ :: _, _, ⟨these, those, hrs, hv, hvs⟩ =>
    ⟨these, those, hrs, hv.keeps h, hvs.keeps h⟩

end

mutual

/-- A constant takes as many slots as it has arrays, and its value is laid out in them. -/
theorem materialize_laid : (c : Constant) → (s : Store) → s.Consistent →
    let made := s.materialize c
    s.Takes c.arrays made.2 ∧ made.2.Laid made.1 c (s.upcoming c.arrays) ∧
      made.2.Holds made.1 c.spelled
  | .nil, s, h | .bool _, s, h | .int _, s, h | .float _, s, h | .str _, s, h
  | .symbol _, s, h => ⟨.refl h, ⟨rfl, rfl⟩, rfl⟩
  | .array cs, s, h => by
    obtain ⟨htakes, hlaid, hholds⟩ := materializeAll_laid cs s h
    have hconsistent := htakes.consistent
    -- the list with the items is made last and leaves theirs as they are
    have hlast := takes_alloc hconsistent (.list (s.materializeAll cs).1)
    refine ⟨htakes.trans hlast, ?_, holds_newList hconsistent hholds⟩
    refine ⟨_, s.upcoming (Constant.arraysAll cs), (s.materializeAll cs).2.next,
      congrArg Value.list (alloc_fst _ _), get?_alloc_next hconsistent _, ?_,
      hlaid.keeps (keeps_alloc hconsistent _)⟩
    rw [Constant.arrays, htakes.upcoming_add, upcoming_one]

theorem materializeAll_laid : (cs : List Constant) → (s : Store) → s.Consistent →
    let made := s.materializeAll cs
    s.Takes (Constant.arraysAll cs) made.2 ∧
      made.2.LaidAll made.1 cs (s.upcoming (Constant.arraysAll cs)) ∧
      made.2.HoldsAll made.1 (Constant.spelledAll cs)
  | [], s, h => ⟨.refl h, rfl, trivial⟩
  | c :: cs, s, h => by
    obtain ⟨htakes, hlaid, hholds⟩ := materialize_laid c s h
    obtain ⟨hmore, hlaids, hholdsAll⟩ := materializeAll_laid cs _ htakes.consistent
    have hkeeps := hmore.keeps htakes.consistent
    simp only [materializeAll, Constant.arraysAll, Constant.spelledAll]
    refine ⟨htakes.trans hmore, ?_, hholds.keeps hkeeps, hholdsAll⟩
    exact ⟨_, _, htakes.upcoming_add _, hlaid.keeps hkeeps, hlaids⟩

end

/-! ### Which list is an item of which -/

/-- The lists among the items of the list in a slot, as often as they occur. -/
def inner (s : Store) (r : Ref) : List Ref :=
  match s.get? r with
  | some (.list vs) => vs.flatMap Value.lists
  | _ => []

lemma mem_inner {r q : Ref} : q ∈ s.inner r ↔ s.Links r q := by
  have hlists (v : Value) : q ∈ v.lists ↔ v = .list q := by
    cases v <;> simp [Value.lists, eq_comm]
  unfold inner Links
  split
  · next vs hr => simp [hr, hlists]
  · next hnot =>
    simp only [List.not_mem_nil, false_iff]
    rintro ⟨vs, hr, -⟩
    exact hnot vs hr

mutual

/-- Each slot occurs once: in the value itself or among the items of the lists. -/
theorem Laid.perm : {v : Value} → {c : Constant} → {rs : List Ref} → s.Laid v c rs →
    (v.lists ++ rs.flatMap s.inner).Perm rs
  | v, .nil, _, ⟨hv, rfl⟩ | v, .bool _, _, ⟨hv, rfl⟩ | v, .int _, _, ⟨hv, rfl⟩
  | v, .float _, _, ⟨hv, rfl⟩ | v, .str _, _, ⟨hv, rfl⟩ | v, .symbol _, _, ⟨hv, rfl⟩ => by
    cases v <;> simp_all [Value.lists, Value.ref?]
  | _, .array _, _, ⟨vs, below, r, rfl, hr, rfl, hall⟩ => by
    -- the slots below are counted among the items, and `r` in the value itself
    rw [List.perm_iff_count]
    intro q
    have hbelow := hall.perm.count_eq q
    have hinner : s.inner r = vs.flatMap Value.lists := by simp [inner, hr]
    rw [List.count_append] at hbelow
    simp only [List.flatMap_append, List.flatMap_singleton, hinner, Value.lists,
      List.count_append]
    omega

theorem LaidAll.perm : {vs : List Value} → {cs : List Constant} → {rs : List Ref} →
    s.LaidAll vs cs rs → (vs.flatMap Value.lists ++ rs.flatMap s.inner).Perm rs
  | [], [], _, rfl => .refl _
  | v :: vs, _ :: _, _, ⟨these, those, rfl, hv, hvs⟩ => by
    rw [List.perm_iff_count]
    intro q
    have hthese := hv.perm.count_eq q
    have hthose := hvs.perm.count_eq q
    rw [List.count_append] at hthese hthose
    simp only [List.flatMap_cons, List.flatMap_append, List.count_append]
    omega

end

/-- Every list but the outermost is an item of exactly one of the others. -/
lemma Laid.existsUnique_links {v : Value} {c : Constant} {rs : List Ref} (h : s.Laid v c rs)
    (hnodup : rs.Nodup) {q : Ref} (hq : q ∈ rs) (hv : v ≠ .list q) :
    ∃! r, r ∈ rs ∧ s.Links r q := by
  have hmem : q ∈ rs.flatMap s.inner := by
    have hnot : q ∉ v.lists := by
      cases v <;> simp_all [Value.lists, eq_comm]
    simpa [hnot] using h.perm.mem_iff.mpr hq
  have hflat : (rs.flatMap s.inner).Nodup :=
    (List.nodup_append.mp (h.perm.nodup_iff.mpr hnodup)).2.1
  obtain ⟨r, hr, hrq⟩ := List.mem_flatMap.mp hmem
  refine ⟨r, ⟨hr, mem_inner.mp hrq⟩, ?_⟩
  rintro r' ⟨hr', hlink⟩
  -- two lists with the same item would have its slot twice among their items
  by_contra hne
  have hsymm : Std.Symm (Function.onFun List.Disjoint s.inner) := ⟨fun _ _ => List.Disjoint.symm⟩
  have hdisjoint : (s.inner r').Disjoint (s.inner r) :=
    (List.nodup_flatMap.mp hflat).2.forall hr' hr hne
  exact hdisjoint (mem_inner.mpr hlink) hrq

end Store

end Dirlang
