import Mathlib
import Dirlang.Proofs.Store.Slots

/-!
Live values: those that refer to an object of their kind.

A list and a directory value on one slot are never both live, and a value is nothing but its kind
and its slot. Which object a live value stands for is therefore a matter of when one looks.
-/

namespace Dirlang

/-- The value that refers to an object in a slot. -/
def Object.valueAt (r : Ref) : Object → Value
  | .list _ => .list r
  | .dir _ => .dir r

@[simp] lemma Object.ref?_valueAt (r : Ref) (o : Object) : (o.valueAt r).ref? = some r := by
  cases o <;> rfl

namespace Store

variable {s : Store} {v : Value} {r : Ref}

/-- There is an object of the value's kind in its slot. -/
def Live (s : Store) (v : Value) : Prop := ∃ r o, s.get? r = some o ∧ o.valueAt r = v

lemma live_iff (hv : v.ref? = some r) :
    s.Live v ↔ ∃ o, s.get? r = some o ∧ o.valueAt r = v := by
  refine ⟨?_, fun ⟨o, ho, hov⟩ => ⟨r, o, ho, hov⟩⟩
  rintro ⟨r', o, ho, rfl⟩
  rw [Object.ref?_valueAt, Option.some.injEq] at hv
  exact ⟨o, hv ▸ ho, by rw [hv]⟩

lemma live_dir_iff : s.Live (.dir r) ↔ ∃ d, s.get? r = some (.dir d) := by
  rw [live_iff rfl]
  refine ⟨fun ⟨o, ho, hv⟩ => ?_, fun ⟨d, hd⟩ => ⟨.dir d, hd, rfl⟩⟩
  cases o with
  | list items => cases hv
  | dir d => exact ⟨d, ho⟩

lemma live_list_iff : s.Live (.list r) ↔ ∃ items, s.get? r = some (.list items) := by
  rw [live_iff rfl]
  refine ⟨fun ⟨o, ho, hv⟩ => ?_, fun ⟨items, hi⟩ => ⟨.list items, hi, rfl⟩⟩
  cases o with
  | list items => exact ⟨items, ho⟩
  | dir d => cases hv

lemma get?_eq_none_iff : s.get? r = none ↔ ∀ v : Value, v.ref? = some r → ¬ s.Live v := by
  refine ⟨fun hr v hv hlive => ?_, fun h => ?_⟩
  · obtain ⟨o, ho, -⟩ := (live_iff hv).mp hlive
    rw [hr] at ho
    cases ho
  · by_contra hr
    obtain ⟨o, ho⟩ := Option.ne_none_iff_exists'.mp hr
    exact h (o.valueAt r) (o.ref?_valueAt r) ⟨r, o, ho, rfl⟩

/-! ### What makes values live and what ends it -/

lemma live_alloc (h : s.Consistent) (o : Object) :
    (s.alloc o).2.Live v ↔ s.Live v ∨ o.valueAt s.next = v := by
  constructor
  · rintro ⟨r, o', ho', hv⟩
    rw [get?_alloc h] at ho'
    split at ho'
    · next hr => cases ho'; exact .inr (hr ▸ hv)
    · exact .inl ⟨r, o', ho', hv⟩
  · rintro (⟨r, o', ho', hv⟩ | hv)
    · exact ⟨r, o', by rw [get?_alloc h, if_neg (ne_next h ho'), ho'], hv⟩
    · exact ⟨s.next, o, by rw [get?_alloc h, if_pos rfl], hv⟩

lemma live_release (hv : v.ref? = some r) (w : Value) :
    (s.release w).2.Live v ↔ s.Live v ∧ w.ref? ≠ some r := by
  unfold release
  rcases hw : w.ref? with _ | r'
  · simp
  · dsimp only
    rw [live_iff hv, live_iff hv, get?_free]
    by_cases hr : r = r'
    · simp [hr]
    · simp [hr, Ne.symm hr]

lemma live_updateDir (w : Value) (f : Dir → Dir) :
    (s.updateDir w f).Live v ↔ s.Live v := by
  cases w with
  | dir r =>
    refine exists_congr fun r' => ?_
    rw [updateDir, get?_update]
    split
    · next hr =>
      subst hr
      rcases s.get? r' with _ | _ | d <;> simp [Object.valueAt]
    · rfl
  | _ => rfl

/-! ### Looking up -/

lemma dir_of_not_live (h : ¬ s.Live (.dir r)) : s.dir (.dir r) = .error .danglingObject := by
  rw [live_dir_iff] at h
  rcases hr : s.get? r with _ | _ | d
  · simp [dir, hr]
  · simp [dir, hr]
  · exact (h ⟨d, hr⟩).elim

lemma items_of_not_live (h : ¬ s.Live (.list r)) : s.items (.list r) = .error .danglingObject := by
  rw [live_list_iff] at h
  rcases hr : s.get? r with _ | items | d
  · simp [items, hr]
  · exact (h ⟨items, hr⟩).elim
  · simp [items, hr]

end Store

end Dirlang
