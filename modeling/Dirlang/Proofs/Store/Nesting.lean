import Mathlib
import Dirlang.Proofs.Store.Slots
import Dirlang.Store.Text

/-!
How lists nest: as a graph on the slots, where a list leads to the lists among its items.

The text of a value follows this graph. It comes to an end just when no cycle can be reached, and
then it needs no more depth than there are slots. Lists never change, so only an allocation can
close a cycle, and only if an item already leads to the slot that the new list gets.
-/

namespace Dirlang.Store

open Relation

variable {s : Store} {r r' : Ref} {items : List Value}

/-- The list in a slot has the list value of another slot among its items. -/
def Links (s : Store) (r r' : Ref) : Prop :=
  ∃ items, s.get? r = some (.list items) ∧ .list r' ∈ items

/-- No list contains itself, at any depth. -/
def Acyclic (s : Store) : Prop := ∀ r, ¬ TransGen s.Links r r

/-- The list in the slot contains a list that contains itself. -/
def Endless (s : Store) (r : Ref) : Prop := ∃ q, ReflTransGen s.Links r q ∧ TransGen s.Links q q

/-- A new list with these items would contain itself: one of them leads to the slot it gets. -/
def Closes (s : Store) (items : List Value) : Prop :=
  ∃ r, .list r ∈ items ∧ ReflTransGen s.Links r s.next

lemma links_iff (h : s.get? r = some (.list items)) : s.Links r r' ↔ .list r' ∈ items := by
  simp [Links, h]

lemma not_links_of_none (h : s.get? r = none) : ¬ s.Links r r' := by
  simp [Links, h]

lemma Acyclic.mono {s' : Store} (h : s.Acyclic) (hle : s'.Links ≤ s.Links) : s'.Acyclic :=
  fun r hr => h r (TransGen.mono hle r r hr)

lemma acyclic_empty : empty.Acyclic := fun r hr => by
  obtain ⟨q, hq, -⟩ := TransGen.head'_iff.mp hr
  exact not_links_of_none (get?_empty r) hq

/-! ### Texts and chains of lists -/

lemma mapM_eq_none_iff {α β : Type} (f : α → Option β) (l : List α) :
    l.mapM f = none ↔ ∃ a ∈ l, f a = none := by
  induction l with
  | nil => simp
  | cons a l ih =>
    rw [List.mapM_cons]
    rcases ha : f a with _ | b
    · simp [ha]
    · rcases hl : l.mapM f with _ | bs
      · simpa [ha, hl] using ih.mp hl
      · simpa [ha, hl] using ih

lemma exists_of_textWithin_eq_none {depth : ℕ} {v : Value} (h : s.textWithin depth v = none) :
    ∃ r, v = .list r := by
  cases v with
  | list r => exact ⟨r, rfl⟩
  | dir r => simp only [textWithin] at h; split at h <;> cases h
  | _ => simp [textWithin] at h

lemma textWithin_succ_eq_none_iff {depth : ℕ} :
    s.textWithin (depth + 1) (.list r) = none ↔
      ∃ r', s.Links r r' ∧ s.textWithin depth (.list r') = none := by
  rw [textWithin, Option.map_eq_none_iff, mapM_eq_none_iff]
  constructor
  · rintro ⟨v, hv, hnone⟩
    obtain ⟨r', rfl⟩ := exists_of_textWithin_eq_none hnone
    split at hv
    · next items hr => exact ⟨r', (links_iff hr).mpr hv, hnone⟩
    · cases hv
  · rintro ⟨r', ⟨items, hr, hmem⟩, hnone⟩
    exact ⟨.list r', by rw [hr]; exact hmem, hnone⟩

lemma textWithin_eq_none_iff (n : ℕ) :
    s.textWithin n (.list r) = none ↔
      ∃ l : List Ref, l.length = n ∧ List.IsChain s.Links (r :: l) := by
  induction n generalizing r with
  | zero => exact ⟨fun _ => ⟨[], rfl, .singleton r⟩, fun _ => by simp [textWithin]⟩
  | succ n ih =>
    rw [textWithin_succ_eq_none_iff]
    constructor
    · rintro ⟨r', hlink, hnone⟩
      obtain ⟨l, rfl, hl⟩ := ih.mp hnone
      exact ⟨r' :: l, rfl, List.isChain_cons_cons.mpr ⟨hlink, hl⟩⟩
    · rintro ⟨_ | ⟨r', l⟩, hlen, hl⟩
      · cases hlen
      · obtain ⟨hlink, hl⟩ := List.isChain_cons_cons.mp hl
        exact ⟨r', hlink, ih.mpr ⟨l, Nat.succ.inj hlen, hl⟩⟩

lemma reflTransGen_of_isChain {l : List Ref} (h : List.IsChain s.Links (r :: l)) {q : Ref}
    (hq : q ∈ r :: l) : ReflTransGen s.Links r q := by
  induction l generalizing r with
  | nil => rw [List.mem_singleton.mp hq]
  | cons r' l ih =>
    obtain ⟨hlink, hl⟩ := List.isChain_cons_cons.mp h
    rcases List.mem_cons.mp hq with rfl | hq
    · exact .refl
    · exact .head hlink (ih hl hq)

lemma lt_size_of_isChain {l : List Ref} (h : List.IsChain s.Links (r :: l)) {q : Ref}
    (hq : q ∈ (r :: l).dropLast) : q.slot < s.slots.size := by
  induction l generalizing r with
  | nil => simp at hq
  | cons r' l ih =>
    obtain ⟨⟨items, hr, -⟩, hl⟩ := List.isChain_cons_cons.mp h
    rw [List.dropLast_cons_cons, List.mem_cons] at hq
    rcases hq with rfl | hq
    · exact lt_size_of_get? hr
    · exact ih hl hq

lemma endless_of_isChain {l : List Ref} (h : List.IsChain s.Links (r :: l))
    (hlen : s.slots.size < l.length) : s.Endless r := by
  by_contra hnot
  have hpair : ((r :: l).dropLast).Pairwise (TransGen s.Links) :=
    (h.imp fun _ _ => TransGen.single).pairwise.sublist (List.dropLast_sublist _)
  -- otherwise the lists of the chain have slots of their own each, more than there are
  have hnodup : ((r :: l).dropLast.map Ref.slot).Nodup := by
    refine List.Pairwise.map _ (fun a b (hab : a ≠ b) hslot => hab ?_) (hpair.imp_of_mem ?_)
    · cases a; cases b; simpa using hslot
    · rintro a b ha - hab rfl
      exact hnot ⟨a, reflTransGen_of_isChain h (List.dropLast_subset _ ha), hab⟩
  have hle := (List.subperm_of_subset hnodup fun i hi => by
    obtain ⟨q, hq, rfl⟩ := List.mem_map.mp hi
    exact List.mem_range.mpr (lt_size_of_isChain h hq)).length_le
  simp at hle
  omega

lemma exists_isChain (h : s.Endless r) (n : ℕ) :
    ∃ l : List Ref, l.length = n ∧ List.IsChain s.Links (r :: l) := by
  induction n generalizing r with
  | zero => exact ⟨[], rfl, .singleton r⟩
  | succ n ih =>
    obtain ⟨q, hq, hcycle⟩ := h
    -- the next step goes towards the cycle, or along it once it is reached
    have hstep : ∃ r', s.Links r r' ∧ ReflTransGen s.Links r' q := by
      rcases hq.cases_head with rfl | hstep
      · exact TransGen.head'_iff.mp hcycle
      · exact hstep
    obtain ⟨r', hlink, hreach⟩ := hstep
    obtain ⟨l, rfl, hl⟩ := ih ⟨q, hreach, hcycle⟩
    exact ⟨r' :: l, rfl, List.isChain_cons_cons.mpr ⟨hlink, hl⟩⟩

lemma text?_list_eq_none_iff : s.text? (.list r) = none ↔ s.Endless r := by
  rw [text?, textWithin_eq_none_iff]
  constructor
  · rintro ⟨l, hlen, hl⟩
    exact endless_of_isChain hl (by omega)
  · exact fun h => exists_isChain h _

lemma text?_eq_none_iff {v : Value} : s.text? v = none ↔ ∀ depth, s.textWithin depth v = none := by
  refine ⟨fun h depth => ?_, fun h => h _⟩
  obtain ⟨r, rfl⟩ := exists_of_textWithin_eq_none h
  exact (textWithin_eq_none_iff depth).mpr (exists_isChain (text?_list_eq_none_iff.mp h) depth)

/-- **Everything can be written out unless a list contains itself.** -/
lemma acyclic_iff_isSome_text? : s.Acyclic ↔ ∀ v, (s.text? v).isSome := by
  constructor
  · intro h v
    by_contra hnone
    rw [Option.not_isSome_iff_eq_none] at hnone
    obtain ⟨r, rfl⟩ := exists_of_textWithin_eq_none hnone
    obtain ⟨q, -, hq⟩ := text?_list_eq_none_iff.mp hnone
    exact h q hq
  · intro h r hr
    have hnone : s.text? (.list r) = none := text?_list_eq_none_iff.mpr ⟨r, .refl, hr⟩
    simpa [hnone] using h (.list r)

/-! ### What the operations do to the graph -/

lemma links_alloc_dir (h : s.Consistent) (d : Dir) : (s.alloc (.dir d)).2.Links ≤ s.Links := by
  rintro r r' ⟨items, hr, hmem⟩
  rw [get?_alloc h] at hr
  split at hr
  · cases hr
  · exact ⟨items, hr, hmem⟩

lemma links_release (s : Store) (v : Value) : (s.release v).2.Links ≤ s.Links := by
  rintro r r' ⟨items, hr, hmem⟩
  unfold release at hr
  split at hr
  · rw [get?_free] at hr
    split at hr
    · cases hr
    · exact ⟨items, hr, hmem⟩
  · exact ⟨items, hr, hmem⟩

lemma links_updateDir (s : Store) (v : Value) (f : Dir → Dir) :
    (s.updateDir v f).Links ≤ s.Links := by
  rintro r r' ⟨items, hr, hmem⟩
  cases v with
  | dir q =>
    rw [updateDir, get?_update] at hr
    split at hr
    · next hq =>
      subst hq
      rcases hs : s.get? r with _ | items' | d
      · simp [hs] at hr
      · rw [hs] at hr; cases hr; exact ⟨items, hs, hmem⟩
      · simp [hs] at hr
    · exact ⟨items, hr, hmem⟩
  | _ => exact ⟨items, hr, hmem⟩

lemma links_alloc_list (h : s.Consistent) :
    (s.alloc (.list items)).2.Links r r' ↔ r = s.next ∧ .list r' ∈ items ∨ s.Links r r' := by
  unfold Links
  rw [get?_alloc h]
  by_cases hr : r = s.next
  · simp [hr, get?_next h]
  · simp [hr]

lemma reflTransGen_alloc_list (h : s.Consistent) {q t : Ref}
    (hqt : ReflTransGen (s.alloc (.list items)).2.Links q t) :
    ReflTransGen s.Links q t ∨
      ReflTransGen s.Links q s.next ∧ ReflTransGen (s.alloc (.list items)).2.Links s.next t := by
  -- from the front: only a first step out of the new list is not a step of before
  induction hqt using ReflTransGen.head_induction_on with
  | refl => exact .inl .refl
  | head hlink hrest ih =>
    rcases (links_alloc_list h).mp hlink with ⟨rfl, -⟩ | hold
    · exact .inr ⟨.refl, .head hlink hrest⟩
    · rcases ih with ih | ⟨ih, hnext⟩
      · exact .inl (.head hold ih)
      · exact .inr ⟨.head hold ih, hnext⟩

/-- **Only an item that leads to the new list closes a cycle.** -/
lemma acyclic_alloc_list (h : s.Consistent) (ha : s.Acyclic) :
    (s.alloc (.list items)).2.Acyclic ↔ ¬ s.Closes items := by
  have hmono : s.Links ≤ (s.alloc (.list items)).2.Links :=
    fun _ _ hlink => (links_alloc_list h).mpr (.inr hlink)
  -- a cycle through the new list goes on with one of its items and is a path of before from there
  have hcloses (hcycle : TransGen (s.alloc (.list items)).2.Links s.next s.next) :
      s.Closes items := by
    obtain ⟨q, hlink, hback⟩ := TransGen.head'_iff.mp hcycle
    rcases (links_alloc_list h).mp hlink with ⟨-, hmem⟩ | hold
    · rcases reflTransGen_alloc_list h hback with hback | ⟨hback, -⟩ <;> exact ⟨q, hmem, hback⟩
    · exact (not_links_of_none (get?_next h) hold).elim
  constructor
  · rintro hacyclic ⟨q, hmem, hq⟩
    have hlink := (links_alloc_list h).mpr (.inl ⟨rfl, hmem⟩)
    exact hacyclic s.next (.head' hlink (ReflTransGen.mono hmono _ _ hq))
  · -- a cycle starts at the new list, does not come by it, or comes by it farther on
    intro hnot r hr
    obtain ⟨q, hlink, hback⟩ := TransGen.head'_iff.mp hr
    rcases (links_alloc_list h).mp hlink with ⟨rfl, -⟩ | hold
    · exact hnot (hcloses hr)
    · rcases reflTransGen_alloc_list h hback with hback | ⟨hq, hnext⟩
      · exact ha r (.head' hold hback)
      · exact hnot (hcloses ((TransGen.tail' hnext (hmono _ _ hold)).trans_left
          (ReflTransGen.mono hmono _ _ hq)))

/-! ### Items that are sure not to close a cycle -/

/-- All lists that a value leads to are there. -/
def Grounded (s : Store) (v : Value) : Prop :=
  ∀ r q, v = .list r → ReflTransGen s.Links r q → s.get? q ≠ none

lemma not_closes_of_grounded (h : s.Consistent) (hitems : ∀ v ∈ items, s.Grounded v) :
    ¬ s.Closes items := by
  rintro ⟨r, hmem, hr⟩
  exact hitems _ hmem r s.next rfl hr (get?_next h)

end Dirlang.Store
