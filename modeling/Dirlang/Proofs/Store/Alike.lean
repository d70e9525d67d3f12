import Mathlib
import Dirlang.Proofs.Store.Runs

/-!
Stores that nothing tells apart.

An object that is freed as soon as it was allocated may leave a new slot behind. It is spare and
comes after all others, so the next object that has no other slot to go to gets it, as it would
have got it anyway. No operations ever show the difference.
-/

namespace Dirlang.Store

/-- Whatever is done to both of them, they hold the same objects, count the same number of them,
and have the same reference for the next. -/
def Alike (s s' : Store) : Prop :=
  ∀ ops, (s'.afterAll ops).get? = (s.afterAll ops).get? ∧
    (s'.afterAll ops).size = (s.afterAll ops).size ∧ (s'.afterAll ops).next = (s.afterAll ops).next

/-- The store with one more slot, which is spare and comes last. -/
def pad (s : Store) : Store := ⟨s.slots.push none, s.spare ++ [s.slots.size]⟩

/-- The second store is the first one, padded or not. -/
def Pads (s s' : Store) : Prop := s' = s ∨ s' = s.pad

variable {s s' : Store}

lemma Alike.refl (s : Store) : s.Alike s := fun _ => ⟨rfl, rfl, rfl⟩

/-! ### A slot more does not show -/

@[simp] lemma get?_pad (s : Store) : s.pad.get? = s.get? := by
  funext r
  unfold get? pad
  rw [Array.getElem?_push]
  split
  · next hr => simp [hr]
  · rfl

@[simp] lemma size_pad (s : Store) : s.pad.size = s.size := by
  simp [size, pad]

@[simp] lemma next_pad (s : Store) : s.pad.next = s.next := by
  rcases hs : s.spare with _ | ⟨j, rest⟩ <;> simp [next, pad, hs]

/-! ### Operations leave no more than that behind -/

lemma setIfInBounds_push {α : Type} (xs : Array α) {i : ℕ} (hi : i < xs.size) (a b : α) :
    (xs.push a).setIfInBounds i b = (xs.setIfInBounds i b).push a := by
  simp [Array.setIfInBounds_def, Array.set_push, hi, Nat.lt_succ_of_lt hi]

lemma pad_alloc_of_nil (hs : s.spare = []) (o : Object) : s.pad.alloc o = s.alloc o := by
  simp [pad, alloc, hs, Array.setIfInBounds_def, Array.set_push]

lemma pad_alloc_of_cons (h : s.Consistent) {j : ℕ} {rest : List ℕ} (hs : s.spare = j :: rest)
    (o : Object) : (s.pad.alloc o).2 = (s.alloc o).2.pad := by
  have hj : j < s.slots.size := h.lt_size (by simp [hs])
  simp [pad, alloc, hs, setIfInBounds_push s.slots hj]

lemma pad_free (s : Store) (r : Ref) : (s.pad.free r).2 = if (s.get? r).isSome then
    (s.free r).2.pad else s.pad := by
  rcases hr : s.get? r with _ | o
  · simp [free_of_none (s := s.pad), hr]
  · have hlt := lt_size_of_get? hr
    rw [free_of_some (s := s.pad) (by rw [get?_pad, hr]), free_of_some hr]
    simp [pad, setIfInBounds_push s.slots hlt]

lemma pad_update (s : Store) (r : Ref) (f : Object → Object) :
    s.pad.update r f = (s.update r f).pad := by
  simp only [update, pad, Array.size_modify, Store.mk.injEq, and_true]
  refine Array.ext_getElem? fun i => ?_
  simp only [Array.getElem?_modify, Array.getElem?_push, Array.size_modify]
  by_cases hi : i = s.slots.size <;> by_cases hr : r.slot = i <;> simp [hi, hr]

lemma pads_after (h : s.Consistent) (hpads : s.Pads s') (op : Op) :
    (s.after op).Pads (s'.after op) := by
  rcases hpads with rfl | rfl
  · exact .inl rfl
  -- only an allocation meets with the slot more, and only when no other is spare
  cases op with
  | alloc o =>
    rcases hs : s.spare with _ | ⟨j, rest⟩
    · exact .inl (congrArg Prod.snd (pad_alloc_of_nil hs o))
    · exact .inr (pad_alloc_of_cons h hs o)
  | free r =>
    refine .inr ((pad_free s r).trans ?_)
    rcases hr : s.get? r with _ | o
    · simp [after, free_of_none hr]
    · simp [after]
  | get r => exact .inr rfl
  | update r f => exact .inr (pad_update s r f)

lemma pads_afterAll (h : s.Consistent) (hpads : s.Pads s') (ops : List Op) :
    (s.afterAll ops).Pads (s'.afterAll ops) := by
  induction ops generalizing s s' with
  | nil => exact hpads
  | cons op ops ih => exact ih (consistent_after h op) (pads_after h hpads op)

lemma alike_of_pads (h : s.Consistent) (hpads : s.Pads s') : s.Alike s' := by
  intro ops
  rcases pads_afterAll h hpads ops with hsame | hpad
  · simp [hsame]
  · simp [hpad]

/-! ### Objects that come and go -/

lemma pads_free_alloc (h : s.Consistent) (o : Object) : s.Pads ((s.alloc o).2.free s.next).2 := by
  rw [free_of_some (get?_alloc_next h o)]
  rcases hs : s.spare with _ | ⟨j, rest⟩
  · -- the new slot stays, with nothing in it
    refine .inr ?_
    simp [alloc, next, pad, hs, Array.setIfInBounds_def, Array.set_push]
  · -- the slot was spare before, and is so again
    have hj : j < s.slots.size := h.lt_size (by simp [hs])
    have hnone : s.slots[j]? = some none := by
      have hempty := h.get?_spare (i := j) (by simp [hs])
      simpa [get?, hj] using hempty
    have hslots : s.slots.setIfInBounds j none = s.slots := by
      refine Array.ext_getElem? fun i => ?_
      rw [Array.getElem?_setIfInBounds]
      by_cases hij : j = i
      · subst hij; rw [if_pos rfl, if_pos hj, hnone]
      · simp [hij]
    refine .inl ?_
    simp only [alloc, next, hs, Array.setIfInBounds_setIfInBounds, hslots]
    rw [← hs]

/-- **Nothing shows of an object that was freed at once.** -/
lemma alike_free_alloc (h : s.Consistent) (o : Object) :
    s.Alike ((s.alloc o).2.free s.next).2 :=
  alike_of_pads h (pads_free_alloc h o)

end Dirlang.Store
