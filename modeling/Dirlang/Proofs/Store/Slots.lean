import Mathlib
import Dirlang.Store.Basic

/-!
What the store operations do to the objects behind references, and the invariant that ties the
slots to the spare ones.

A store is consistent when its spare slots are exactly the empty ones, each listed once. Then the
slot that the next object gets is empty, so no allocation ever hits a live object.
-/

namespace Dirlang.Store

/-- The spare slots are the empty ones, each once. -/
structure Consistent (s : Store) : Prop where
  nodup : s.spare.Nodup
  mem_spare_iff : ∀ i, i ∈ s.spare ↔ i < s.slots.size ∧ s.get? ⟨i⟩ = none

variable {s : Store}

@[simp] lemma get?_empty (r : Ref) : empty.get? r = none := by
  simp [get?, empty]

lemma lt_size_of_get? {r : Ref} {o : Object} (h : s.get? r = some o) : r.slot < s.slots.size := by
  by_contra hr
  simp [get?, Array.getElem?_eq_none (Nat.le_of_not_lt hr)] at h

lemma consistent_empty : empty.Consistent :=
  ⟨List.nodup_nil, fun i => by simp [empty]⟩

namespace Consistent

lemma lt_size (h : s.Consistent) {i : ℕ} (hi : i ∈ s.spare) : i < s.slots.size :=
  ((h.mem_spare_iff i).mp hi).1

lemma get?_spare (h : s.Consistent) {i : ℕ} (hi : i ∈ s.spare) : s.get? ⟨i⟩ = none :=
  ((h.mem_spare_iff i).mp hi).2

end Consistent

lemma get?_next (h : s.Consistent) : s.get? s.next = none := by
  rcases hs : s.spare with _ | ⟨i, rest⟩
  · simp [get?, next, hs]
  · simpa [next, hs] using h.get?_spare (i := i) (by simp [hs])

lemma ne_next (h : s.Consistent) {r : Ref} {o : Object} (hr : s.get? r = some o) :
    r ≠ s.next := by
  rintro rfl
  rw [get?_next h] at hr
  cases hr

/-! ### The operations on references -/

lemma get?_alloc (h : s.Consistent) (o : Object) (r : Ref) :
    (s.alloc o).2.get? r = if r = s.next then some o else s.get? r := by
  obtain ⟨i⟩ := r
  rcases hs : s.spare with _ | ⟨j, rest⟩
  · simp only [get?, alloc, next, hs, Ref.mk.injEq, Array.getElem?_push]
    split <;> simp_all
  · have hj : j < s.slots.size := h.lt_size (by simp [hs])
    simp only [get?, alloc, next, hs, Ref.mk.injEq]
    rw [Array.getElem?_setIfInBounds]
    by_cases hij : j = i
    · subst hij; simp [hj]
    · simp [hij, Ne.symm hij]

lemma get?_alloc_next (h : s.Consistent) (o : Object) : (s.alloc o).2.get? s.next = some o := by
  rw [get?_alloc h, if_pos rfl]

@[simp] lemma free_fst (s : Store) (r : Ref) : (s.free r).1 = s.get? r := by
  unfold free; split <;> simp_all

lemma free_of_none {r : Ref} (h : s.get? r = none) : s.free r = (none, s) := by
  simp [free, h]

lemma free_of_some {r : Ref} {o : Object} (h : s.get? r = some o) :
    s.free r = (some o, ⟨s.slots.setIfInBounds r.slot none, r.slot :: s.spare⟩) := by
  simp [free, h]

lemma get?_free (s : Store) (r r' : Ref) :
    (s.free r).2.get? r' = if r' = r then none else s.get? r' := by
  rcases h : s.get? r with _ | o
  · rw [free_of_none h]
    split
    · next hr => rw [hr, h]
    · rfl
  · have hr := lt_size_of_get? h
    rw [free_of_some h]
    obtain ⟨i⟩ := r
    obtain ⟨j⟩ := r'
    simp only [get?, Ref.mk.injEq, Array.getElem?_setIfInBounds]
    by_cases hij : i = j
    · subst hij; simp_all
    · simp [hij, Ne.symm hij]

lemma get?_update (s : Store) (r r' : Ref) (f : Object → Object) :
    (s.update r f).get? r' = if r' = r then (s.get? r).map f else s.get? r' := by
  obtain ⟨i⟩ := r
  obtain ⟨j⟩ := r'
  simp only [get?, update, Ref.mk.injEq, Array.getElem?_modify]
  by_cases hij : i = j
  · subst hij
    rcases h : s.slots[i]? with _ | o <;> simp
  · simp [hij, Ne.symm hij]

lemma update_of_none {r : Ref} (h : s.get? r = none) (f : Object → Object) :
    s.update r f = s := by
  unfold update
  congr 1
  refine Array.ext_getElem? fun i => ?_
  rw [Array.getElem?_modify]
  split
  · next hi =>
    subst hi
    rcases hs : s.slots[r.slot]? with _ | o
    · rfl
    · have : o = none := by simpa [get?, hs] using h
      simp [this]
  · rfl

lemma size_slots_update (s : Store) (r : Ref) (f : Object → Object) :
    (s.update r f).slots.size = s.slots.size := by
  simp [update]

/-! ### The invariant is kept -/

lemma consistent_alloc (h : s.Consistent) (o : Object) : (s.alloc o).2.Consistent := by
  rcases hs : s.spare with _ | ⟨j, rest⟩
  · refine ⟨by simp [alloc, hs], fun i => ?_⟩
    rw [get?_alloc h]
    have hfull := h.mem_spare_iff i
    simp only [hs, List.not_mem_nil, false_iff, not_and] at hfull
    simp only [alloc, next, hs, List.not_mem_nil, Array.size_push, Ref.mk.injEq, false_iff,
      not_and]
    intro hi
    split
    · simp
    · exact hfull (by omega)
  · have hnd := h.nodup
    rw [hs, List.nodup_cons] at hnd
    refine ⟨by simpa [alloc, hs] using hnd.2, fun i => ?_⟩
    rw [get?_alloc h]
    have hi := h.mem_spare_iff i
    rw [hs, List.mem_cons] at hi
    simp only [alloc, next, hs, Array.size_setIfInBounds, Ref.mk.injEq]
    by_cases hij : i = j
    · subst hij; simpa using hnd.1
    · simpa [hij] using hi

lemma consistent_free (h : s.Consistent) (r : Ref) : (s.free r).2.Consistent := by
  rcases ho : s.get? r with _ | o
  · rwa [free_of_none ho]
  · have hr := lt_size_of_get? ho
    have hnot : r.slot ∉ s.spare := fun hm => by
      have := h.get?_spare hm
      rw [ho] at this
      cases this
    refine ⟨?_, fun i => ?_⟩
    · rw [free_of_some ho]
      exact List.nodup_cons.mpr ⟨hnot, h.nodup⟩
    · rw [get?_free, free_of_some ho]
      simp only [List.mem_cons, Array.size_setIfInBounds, h.mem_spare_iff i]
      by_cases hi : (⟨i⟩ : Ref) = r
      · subst hi; simpa using hr
      · have : i ≠ r.slot := fun e => hi (by rw [e])
        simp [hi, this]

lemma consistent_update (h : s.Consistent) (r : Ref) (f : Object → Object) :
    (s.update r f).Consistent := by
  refine ⟨h.nodup, fun i => ?_⟩
  rw [get?_update, size_slots_update]
  change i ∈ s.spare ↔ _
  rw [h.mem_spare_iff i]
  split
  · next hi => subst hi; simp
  · rfl

/-! ### Counting -/

/-- The slots that hold an object. -/
def occupied (s : Store) : Finset ℕ :=
  (Finset.range s.slots.size).filter fun i => (s.get? ⟨i⟩).isSome

lemma mem_occupied {i : ℕ} : i ∈ s.occupied ↔ (s.get? ⟨i⟩).isSome := by
  simp only [occupied, Finset.mem_filter, Finset.mem_range, and_iff_right_iff_imp]
  intro h
  obtain ⟨o, ho⟩ := Option.isSome_iff_exists.mp h
  exact lt_size_of_get? ho

lemma card_occupied_add (h : s.Consistent) :
    s.occupied.card + s.spare.length = s.slots.size := by
  have hspare : s.spare.toFinset =
      (Finset.range s.slots.size).filter fun i => ¬ (s.get? ⟨i⟩).isSome := by
    ext i
    simp [h.mem_spare_iff i]
  rw [← List.toFinset_card_of_nodup h.nodup, hspare, occupied,
    Finset.card_filter_add_card_filter_not, Finset.card_range]

lemma size_free (h : s.Consistent) {r : Ref} {o : Object} (hr : s.get? r = some o) :
    (s.free r).2.size + 1 = s.size := by
  have hcard := card_occupied_add h
  have hpos : 0 < s.occupied.card :=
    Finset.card_pos.mpr ⟨r.slot, mem_occupied.mpr (Option.isSome_iff_exists.mpr ⟨o, hr⟩)⟩
  simp only [size, free_of_some hr, Array.size_setIfInBounds, List.length_cons]
  omega

@[simp] lemma size_update (s : Store) (r : Ref) (f : Object → Object) :
    (s.update r f).size = s.size := by
  simp [size, update]

end Dirlang.Store
