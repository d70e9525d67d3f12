import Mathlib
import Dirlang.Proofs.Store.Slots

/-!
Runs of store operations, in any order and on any references.

Seen through its references a store is a finite map: each operation changes it at one reference at
most. Which reference an object gets is settled by the history: the slot emptied last that is
still empty, else a new one behind all others.
-/

namespace Dirlang.Store

/-- An operation on a store. Looking up changes nothing. -/
inductive Op
  | alloc (o : Object)
  | free (r : Ref)
  | get (r : Ref)
  | update (r : Ref) (f : Object → Object)

def after (s : Store) : Op → Store
  | .alloc o => (s.alloc o).2
  | .free r => (s.free r).2
  | .get _ => s
  | .update r f => s.update r f

def afterAll (s : Store) (ops : List Op) : Store := ops.foldl after s

variable {s : Store}

@[simp] lemma afterAll_nil (s : Store) : s.afterAll [] = s := rfl
@[simp] lemma afterAll_cons (s : Store) (op : Op) (ops : List Op) :
    s.afterAll (op :: ops) = (s.after op).afterAll ops := rfl
lemma afterAll_append (s : Store) (ops more : List Op) :
    s.afterAll (ops ++ more) = (s.afterAll ops).afterAll more := by
  simp [afterAll, List.foldl_append]

lemma consistent_after (h : s.Consistent) (op : Op) : (s.after op).Consistent := by
  cases op with
  | alloc o => exact consistent_alloc h o
  | free r => exact consistent_free h r
  | get r => exact h
  | update r f => exact consistent_update h r f

lemma consistent_afterAll (h : s.Consistent) (ops : List Op) : (s.afterAll ops).Consistent := by
  induction ops generalizing s with
  | nil => exact h
  | cons op ops ih => exact ih (consistent_after h op)

/-! ### Empty slots stay empty until they are handed out -/

/-- Some allocation among the operations gets the reference `r`. -/
def HandsOut (s : Store) (ops : List Op) (r : Ref) : Prop :=
  ∃ before o rest, ops = before ++ .alloc o :: rest ∧ ((s.afterAll before).alloc o).1 = r

lemma handsOut_cons {op : Op} {ops : List Op} {r : Ref} (h : (s.after op).HandsOut ops r) :
    s.HandsOut (op :: ops) r := by
  obtain ⟨before, o, rest, rfl, hr⟩ := h
  exact ⟨op :: before, o, rest, rfl, hr⟩

lemma get?_after_eq_none (h : s.Consistent) {op : Op} {r : Ref} (hr : s.get? r = none)
    (hop : ∀ o, op = .alloc o → s.next ≠ r) : (s.after op).get? r = none := by
  cases op with
  | alloc o =>
    have hne : r ≠ s.next := (hop o rfl).symm
    simpa [after, get?_alloc h, hne] using hr
  | free r' => simp [after, get?_free, hr]
  | get r' => exact hr
  | update r' f =>
    rw [after, get?_update]
    split
    · next e => rw [← e, hr, Option.map_none]
    · exact hr

lemma get?_afterAll_eq_none (h : s.Consistent) {ops : List Op} {r : Ref}
    (hr : s.get? r = none) (hops : ¬ s.HandsOut ops r) : (s.afterAll ops).get? r = none := by
  induction ops generalizing s with
  | nil => exact hr
  | cons op ops ih =>
    refine ih (consistent_after h op) (get?_after_eq_none h hr ?_)
      fun hmore => hops (handsOut_cons hmore)
    rintro o rfl hnext
    exact hops ⟨[], o, ops, rfl, by rw [afterAll_nil, alloc_fst, hnext]⟩

/-! ### Which slot comes next -/

/-- The slot that an operation empties, if it does. -/
def Op.emptied (s : Store) : Op → List ℕ
  | .free r => if (s.get? r).isSome then [r.slot] else []
  | _ => []

/-- The slots that operations empty, the one emptied last first. -/
def emptied (s : Store) : List Op → List ℕ
  | [] => []
  | op :: ops => (s.after op).emptied ops ++ op.emptied s

/-- Those of the slots that are empty, each where it stands first. -/
def stillEmpty (s : Store) (slots : List ℕ) : List ℕ :=
  (slots.filter fun i => (s.get? ⟨i⟩).isNone).eraseDups

lemma size_slots_le_after (s : Store) (op : Op) : s.slots.size ≤ (s.after op).slots.size := by
  cases op with
  | alloc o => rcases hs : s.spare with _ | ⟨i, rest⟩ <;> simp [after, alloc, hs]
  | free r => rcases hr : s.get? r with _ | o <;> simp [after, free, hr]
  | get r => exact le_rfl
  | update r f => simp [after, size_slots_update]

lemma emptied_lt {op : Op} {i : ℕ} (hi : i ∈ op.emptied s) : i < s.slots.size := by
  cases op with
  | free r =>
    simp only [Op.emptied] at hi
    split at hi
    · next hr =>
      obtain ⟨o, ho⟩ := Option.isSome_iff_exists.mp hr
      rw [List.mem_singleton.mp hi]
      exact lt_size_of_get? ho
    · cases hi
  | alloc o => cases hi
  | get r => cases hi
  | update r f => cases hi

lemma spare_alloc (h : s.Consistent) (o : Object) {slots : List ℕ}
    (hs : s.spare = s.stillEmpty slots) (hlt : ∀ i ∈ slots, i < s.slots.size) :
    (s.alloc o).2.spare = (s.alloc o).2.stillEmpty slots := by
  rcases hsp : s.spare with _ | ⟨j, rest⟩
  · -- no slot is spare: the object gets one that no operation has emptied
    have hsame : (s.alloc o).2.stillEmpty slots = s.stillEmpty slots := by
      unfold stillEmpty
      congr 1
      refine List.filter_congr fun i hi => ?_
      have : (⟨i⟩ : Ref) ≠ s.next := by
        have := hlt i hi
        simp only [next, hsp, ne_eq, Ref.mk.injEq]
        omega
      rw [get?_alloc h, if_neg this]
    rw [hsame, ← hs, hsp]
    simp [alloc, hsp]
  · -- the front of the list is taken, and it is the first in the history that is still empty
    have hnext : s.next = ⟨j⟩ := by simp [next, hsp]
    have hfilter : (slots.filter fun i => ((s.alloc o).2.get? ⟨i⟩).isNone) =
        (slots.filter fun i => (s.get? ⟨i⟩).isNone).filter fun i => !i == j := by
      rw [List.filter_filter]
      refine List.filter_congr fun i _ => ?_
      rw [get?_alloc h, hnext]
      by_cases hij : i = j <;> simp [hij]
    rw [hsp, stillEmpty] at hs
    rcases hl : slots.filter fun i => (s.get? ⟨i⟩).isNone with _ | ⟨k, l⟩
    · rw [hl] at hs; cases hs
    · rw [hl, List.eraseDups_cons] at hs
      obtain ⟨rfl, hrest⟩ := List.cons.inj hs
      rw [stillEmpty, hfilter, hl, List.filter_cons_of_neg (by simp), ← hrest]
      simp [alloc, hsp]

lemma spare_free {r : Ref} {o : Object} (hr : s.get? r = some o) {slots : List ℕ}
    (hs : s.spare = s.stillEmpty slots) :
    (s.free r).2.spare = (s.free r).2.stillEmpty (r.slot :: slots) := by
  -- the slot was occupied, so that it is nowhere in the list so far
  have hfilter : ((slots.filter fun i => ((s.free r).2.get? ⟨i⟩).isNone).filter
      fun i => !i == r.slot) = slots.filter fun i => (s.get? ⟨i⟩).isNone := by
    rw [List.filter_filter]
    refine List.filter_congr fun i _ => ?_
    rw [get?_free]
    by_cases hi : (⟨i⟩ : Ref) = r
    · subst hi; simp [hr]
    · have : i ≠ r.slot := fun e => hi (by rw [e])
      simp [hi, this]
  rw [stillEmpty, List.filter_cons_of_pos (by rw [get?_free]; simp), List.eraseDups_cons,
    hfilter, ← stillEmpty, ← hs, free_of_some hr]

lemma spare_after (h : s.Consistent) (op : Op) {slots : List ℕ}
    (hs : s.spare = s.stillEmpty slots) (hlt : ∀ i ∈ slots, i < s.slots.size) :
    (s.after op).spare = (s.after op).stillEmpty (op.emptied s ++ slots) := by
  cases op with
  | alloc o => exact spare_alloc h o hs hlt
  | free r =>
    rcases hr : s.get? r with _ | o
    · simpa [after, Op.emptied, free_of_none hr, hr] using hs
    · simpa [after, Op.emptied, hr] using spare_free hr hs
  | get r => exact hs
  | update r f =>
    have hsame : (s.update r f).stillEmpty slots = s.stillEmpty slots := by
      unfold stillEmpty
      congr 1
      refine List.filter_congr fun i _ => ?_
      rw [get?_update]
      split
      · next hi => subst hi; simp
      · rfl
    exact hs.trans hsame.symm

lemma spare_afterAll (h : s.Consistent) (ops : List Op) (slots : List ℕ)
    (hs : s.spare = s.stillEmpty slots) (hlt : ∀ i ∈ slots, i < s.slots.size) :
    (s.afterAll ops).spare = (s.afterAll ops).stillEmpty (s.emptied ops ++ slots) := by
  -- over the history so far, which grows at its front
  induction ops generalizing s slots with
  | nil => exact hs
  | cons op ops ih =>
    rw [afterAll_cons, emptied, List.append_assoc]
    refine ih (consistent_after h op) _ (spare_after h op hs hlt) fun i hi => ?_
    have hle := size_slots_le_after s op
    rcases List.mem_append.mp hi with hi | hi
    · exact (emptied_lt hi).trans_le hle
    · exact (hlt i hi).trans_le hle

lemma next_eq_find? {slots : List ℕ} (hs : s.spare = s.stillEmpty slots) :
    s.next.slot = (slots.find? fun i => (s.get? ⟨i⟩).isNone).getD s.slots.size := by
  rw [← List.head?_filter]
  unfold stillEmpty at hs
  rcases hl : slots.filter fun i => (s.get? ⟨i⟩).isNone with _ | ⟨k, l⟩
  · rw [hl] at hs
    simp only [List.eraseDups_nil] at hs
    simp [next, hs]
  · rw [hl, List.eraseDups_cons] at hs
    simp [next, hs]

/-- **A store is a finite map.** After any operations on an empty store: the spare slots are the
empty ones, each once, so that the size is the number of live objects; allocating, freeing and
updating change the map at one reference and answer what was there; a reference that has been
emptied stays so until an allocation gets it again; and an allocation gets the slot emptied last
among those still empty, else a new one. -/
theorem afterAll_empty_is_map (ops : List Op) :
    let s := empty.afterAll ops
    (s.spare.Nodup ∧ (∀ i ∈ s.spare, i < s.slots.size) ∧
      ∀ i < s.slots.size, i ∈ s.spare ↔ s.get? ⟨i⟩ = none) ∧
    (s.spare.length ≤ s.slots.size ∧ s.size = s.occupied.card ∧
      (s.isEmpty ↔ ∀ r, s.get? r = none)) ∧
    (∀ o, s.get? (s.alloc o).1 = none ∧
      (s.alloc o).2.get? = Function.update s.get? (s.alloc o).1 (some o)) ∧
    (∀ r, (s.free r).1 = s.get? r ∧ (s.free r).2.get? = Function.update s.get? r none ∧
      (s.get? r = none → (s.free r).2 = s)) ∧
    (∀ r f, (s.update r f).get? = Function.update s.get? r ((s.get? r).map f) ∧
      (s.get? r = none → s.update r f = s)) ∧
    (∀ r more, s.get? r = none → ¬ s.HandsOut more r → (s.afterAll more).get? r = none) ∧
    ∀ o, (s.alloc o).1.slot =
      ((empty.emptied ops).find? fun i => (s.get? ⟨i⟩).isNone).getD s.slots.size := by
  intro s
  have h : s.Consistent := consistent_afterAll consistent_empty ops
  have hcard := card_occupied_add h
  have hsize : s.size = s.occupied.card := by
    unfold size
    omega
  have hspare : s.spare = s.stillEmpty (empty.emptied ops) := by
    have := spare_afterAll consistent_empty ops [] rfl (by simp)
    simpa using this
  refine ⟨⟨h.nodup, fun i hi => h.lt_size hi, fun i hi => ?_⟩, ⟨by omega, hsize, ?_⟩,
    fun o => ⟨?_, ?_⟩, fun r => ⟨free_fst s r, ?_, fun hr => by rw [free_of_none hr]⟩,
    fun r f => ⟨?_, fun hr => update_of_none hr f⟩,
    fun r more hr => get?_afterAll_eq_none h hr, fun o => ?_⟩
  · simp [h.mem_spare_iff i, hi]
  · have hempty : s.isEmpty ↔ s.occupied = ∅ := by
      rw [isEmpty, decide_eq_true_iff, hsize, Finset.card_eq_zero]
    rw [hempty, Finset.eq_empty_iff_forall_notMem]
    exact ⟨fun hn r => by simpa [mem_occupied] using hn r.slot,
      fun hn i => by simp [mem_occupied, hn]⟩
  · rw [alloc_fst, get?_next h]
  · funext r
    rw [get?_alloc h, alloc_fst, Function.update_apply]
  · funext r'
    rw [get?_free, Function.update_apply]
  · funext r'
    rw [get?_update, Function.update_apply]
  · rw [alloc_fst]
    exact next_eq_find? hspare

end Dirlang.Store
