import Mathlib
import Dirlang.Proofs.Store.Slots

/-!
The slots that the next objects get.

They are known in advance, whatever the objects are: the spare ones from the front, then new ones.
A stretch of allocations fills the slots that come up, in their order, and touches no other.
-/

namespace Dirlang.Store

variable {s s' s'' : Store} {n k : ℕ}

/-- The slots that the next `n` objects get, in order. -/
def upcoming (s : Store) (n : ℕ) : List Ref :=
  ((s.spare ++ List.range' s.slots.size n).take n).map Ref.mk

@[simp] lemma upcoming_zero (s : Store) : s.upcoming 0 = [] := rfl

@[simp] lemma length_upcoming (s : Store) (n : ℕ) : (s.upcoming n).length = n := by
  simp [upcoming]

lemma upcoming_succ (s : Store) (o : Object) (n : ℕ) :
    s.upcoming (n + 1) = s.next :: (s.alloc o).2.upcoming n := by
  rcases hs : s.spare with _ | ⟨i, rest⟩
  · simp [upcoming, next, alloc, hs, List.range'_succ]
  · -- with a spare slot at hand, the last of the new ones does not come up
    have hshort : (rest ++ List.range' s.slots.size (n + 1)).take n =
        (rest ++ List.range' s.slots.size n).take n := by
      rw [List.range'_concat, ← List.append_assoc, List.take_append_of_le_length (by simp)]
    simp only [upcoming, next, alloc, hs, Array.size_setIfInBounds, List.cons_append,
      List.take_succ_cons, List.map_cons, hshort]

lemma upcoming_one (s : Store) : s.upcoming 1 = [s.next] := by
  rw [upcoming_succ s (.list []), upcoming_zero]

lemma nodup_upcoming (h : s.Consistent) (n : ℕ) : (s.upcoming n).Nodup := by
  have hslots : (s.spare ++ List.range' s.slots.size n).Nodup := by
    refine List.Nodup.append h.nodup List.nodup_range' fun i hspare hnew => ?_
    have hlt := h.lt_size hspare
    have hle := (List.mem_range'_1.mp hnew).1
    omega
  have hinj : Function.Injective Ref.mk := fun _ _ => Ref.mk.inj
  exact (hslots.sublist (List.take_sublist _ _)).map hinj

lemma get?_upcoming (h : s.Consistent) {r : Ref} (hr : r ∈ s.upcoming n) : s.get? r = none := by
  obtain ⟨i, hi, rfl⟩ := List.mem_map.mp hr
  rcases List.mem_append.mp (List.mem_of_mem_take hi) with hspare | hnew
  · exact h.get?_spare hspare
  · have hle := (List.mem_range'_1.mp hnew).1
    simp [get?, Array.getElem?_eq_none hle]

/-! ### Stretches of allocations -/

/-- All objects of the first store are in the second as they were. -/
def Keeps (s s' : Store) : Prop := ∀ r o, s.get? r = some o → s'.get? r = some o

/-- Exactly the next `n` slots were taken, in order. -/
structure Takes (s : Store) (n : ℕ) (s' : Store) : Prop where
  consistent : s'.Consistent
  upcoming_add : ∀ k, s.upcoming (n + k) = s.upcoming n ++ s'.upcoming k
  get?_eq : ∀ r, r ∉ s.upcoming n → s'.get? r = s.get? r
  size_eq : s'.size = s.size + n

namespace Takes

lemma refl (h : s.Consistent) : s.Takes 0 s :=
  ⟨h, fun k => by simp, fun _ _ => rfl, rfl⟩

lemma keeps (h : s.Consistent) (htakes : s.Takes n s') : s.Keeps s' := by
  intro r o hr
  rw [htakes.get?_eq r fun hmem => by simp [get?_upcoming h hmem] at hr, hr]

lemma trans (htakes : s.Takes n s') (hmore : s'.Takes k s'') : s.Takes (n + k) s'' := by
  refine ⟨hmore.consistent, fun j => ?_, fun r hr => ?_, ?_⟩
  · rw [Nat.add_assoc, htakes.upcoming_add, hmore.upcoming_add, htakes.upcoming_add,
      List.append_assoc]
  · rw [htakes.upcoming_add, List.mem_append, not_or] at hr
    rw [hmore.get?_eq r hr.2, htakes.get?_eq r hr.1]
  · rw [hmore.size_eq, htakes.size_eq, Nat.add_assoc]

end Takes

lemma size_alloc (h : s.Consistent) (o : Object) : (s.alloc o).2.size = s.size + 1 := by
  have hle : s.spare.length ≤ s.slots.size := by
    have := card_occupied_add h
    omega
  rcases hs : s.spare with _ | ⟨i, rest⟩
  · simp [size, alloc, hs]
  · rw [hs, List.length_cons] at hle
    simp only [size, alloc, hs, Array.size_setIfInBounds, List.length_cons]
    omega

lemma takes_alloc (h : s.Consistent) (o : Object) : s.Takes 1 (s.alloc o).2 := by
  refine ⟨consistent_alloc h o, fun k => ?_, fun r hr => ?_, size_alloc h o⟩
  · rw [upcoming_one, Nat.add_comm, upcoming_succ s o]
    rfl
  · rw [upcoming_one, List.mem_singleton] at hr
    rw [get?_alloc h, if_neg hr]

lemma keeps_alloc (h : s.Consistent) (o : Object) : s.Keeps (s.alloc o).2 :=
  (takes_alloc h o).keeps h

end Dirlang.Store
