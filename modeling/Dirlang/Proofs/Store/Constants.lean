import Mathlib
import Dirlang.Proofs.Store.Nesting
import Dirlang.Store.Constants

/-!
The lists that a constant becomes.

They are allocated inside out, so that the items of each are there before it is. No such list can
close a cycle.
-/

namespace Dirlang.Store

open Relation

variable {s s' : Store} {v : Value} {items : List Value}

/-- The store gets one more list, which closes no cycle. -/
def Grows (s s' : Store) : Prop := ∃ items, ¬ s.Closes items ∧ s' = (s.alloc (.list items)).2

lemma consistent_of_grows (h : s.Consistent) (hgrows : ReflTransGen Grows s s') :
    s'.Consistent := by
  induction hgrows with
  | refl => exact h
  | tail _ hstep ih =>
    obtain ⟨items, -, rfl⟩ := hstep
    exact consistent_alloc ih _

lemma grounded_alloc (h : s.Consistent) (hv : s.Grounded v) (o : Object) :
    (s.alloc o).2.Grounded v := by
  rintro r q rfl hq
  -- nothing led to the slot that is filled now, for it was empty
  have hbefore : ReflTransGen s.Links r q := by
    induction hq with
    | refl => exact .refl
    | tail _ hlink ih =>
      obtain ⟨items, hitems, hmem⟩ := hlink
      rw [get?_alloc h] at hitems
      split at hitems
      · next hnext => exact (hv r _ rfl ih (hnext ▸ get?_next h)).elim
      · exact ih.tail ⟨items, hitems, hmem⟩
  rw [get?_alloc h]
  split
  · simp
  · exact hv r q rfl hbefore

lemma grounded_newList (h : s.Consistent) (hitems : ∀ v ∈ items, s.Grounded v) :
    (s.newList items).2.Grounded (s.newList items).1 := by
  rintro r q hr hq
  obtain rfl : s.next = r := by simpa [newList, alloc_fst] using hr
  change ReflTransGen (s.alloc (.list items)).2.Links s.next q at hq
  change (s.alloc (.list items)).2.get? q ≠ none
  -- the list itself is there, and its items lead nowhere else than before
  rcases hq.cases_head with rfl | ⟨r', hlink, hq⟩
  · rw [get?_alloc h, if_pos rfl]
    simp
  · rcases (links_alloc_list h).mp hlink with ⟨-, hmem⟩ | hold
    · exact grounded_alloc h (hitems _ hmem) _ r' q rfl hq
    · exact (not_links_of_none (get?_next h) hold).elim

lemma grounded_of_grows (h : s.Consistent) (hgrows : ReflTransGen Grows s s')
    (hv : s.Grounded v) : s'.Grounded v := by
  induction hgrows with
  | refl => exact hv
  | tail hbefore hstep ih =>
    obtain ⟨items, -, rfl⟩ := hstep
    exact grounded_alloc (consistent_of_grows h hbefore) ih _

lemma grounded_of_not_list (hv : ∀ r, v ≠ .list r) : s.Grounded v :=
  fun r _ hr => (hv r hr).elim

mutual

/-- A constant only adds lists that close no cycle, and all that its value leads to is there. -/
theorem materialize_grows : (c : Constant) → (s : Store) → s.Consistent →
    ReflTransGen Grows s (s.materialize c).2 ∧ (s.materialize c).2.Grounded (s.materialize c).1
  | .nil, s, _ | .bool _, s, _ | .int _, s, _ | .float _, s, _ | .str _, s, _
  | .symbol _, s, _ => by
    refine ⟨?_, grounded_of_not_list ?_⟩ <;> simp only [materialize]
    · exact .refl
    · simp
  | .array cs, s, h => by
    obtain ⟨hgrows, hitems⟩ := materializeAll_grows cs s h
    have hconsistent := consistent_of_grows h hgrows
    simp only [materialize]
    refine ⟨hgrows.tail ⟨_, not_closes_of_grounded hconsistent hitems, rfl⟩, ?_⟩
    exact grounded_newList hconsistent hitems

theorem materializeAll_grows : (cs : List Constant) → (s : Store) → s.Consistent →
    ReflTransGen Grows s (s.materializeAll cs).2 ∧
      ∀ v ∈ (s.materializeAll cs).1, (s.materializeAll cs).2.Grounded v
  | [], s, _ => by simp [materializeAll, ReflTransGen.refl]
  | c :: cs, s, h => by
    obtain ⟨hgrows, hv⟩ := materialize_grows c s h
    have hconsistent := consistent_of_grows h hgrows
    obtain ⟨hmore, hvs⟩ := materializeAll_grows cs _ hconsistent
    simp only [materializeAll]
    refine ⟨hgrows.trans hmore, fun v hmem => ?_⟩
    rcases List.mem_cons.mp hmem with rfl | hmem
    · exact grounded_of_grows hconsistent hmore hv
    · exact hvs v hmem

end

end Dirlang.Store
