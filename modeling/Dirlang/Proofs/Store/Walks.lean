import Mathlib
import Dirlang.Proofs.Operand.Constancy
import Dirlang.Proofs.Operand.Folding
import Dirlang.Proofs.Store.Trees

/-!
Indexing arrays while a program runs.

A value is walked access by access through the lists that it consists of. This leads to the same
tree as folding its operand beforehand: one step does, and a step from the same tree is all that the
next one needs.
-/

namespace Dirlang

variable {α β : Type}

section Pointwise

variable {R : α → β → Prop} {xs : List α} {ys : List β} (h : List.Forall₂ R xs ys)
include h

lemma forall₂_itemsFrom (i : Int64) : List.Forall₂ R (itemsFrom xs i) (itemsFrom ys i) := by
  unfold itemsFrom
  split
  · exact List.forall₂_drop _ h
  · exact .nil

lemma forall₂_itemAt (i : Int64) {a : α} {b : β} (hab : R a b) :
    R (itemAt xs i a) (itemAt ys i b) := by
  have hgetD (n : ℕ) : R (xs.getD n a) (ys.getD n b) := by
    induction h generalizing n with
    | nil => simpa using hab
    | cons hxy _ ih =>
      cases n with
      | zero => simpa using hxy
      | succ n => simpa using ih n
  unfold itemAt
  split
  · exact hgetD _
  · exact hab

end Pointwise

namespace Store

variable {s : Store} {v : Value} {x y : Operand} {c : Constant}

/-- One access to a list value. A splat makes a list of its own. -/
def access (s : Store) (v : Value) (a : Access) : Except Error (Value × Store) := do
  let vs ← s.items v
  if a.splat then return s.newList (itemsFrom vs a.index)
  else return (itemAt vs a.index .nil, s)

/-- Accesses one after the other, each to what the one before has found. -/
def walk (s : Store) (v : Value) : List Access → Except Error (Value × Store)
  | [] => return (v, s)
  | a :: accesses => do
    let found ← s.access v a
    found.2.walk found.1 accesses

/-- The value reads back as the tree of the constant operand, and the store is in order. -/
structure Reflects (x : Operand) (v : Value) (s : Store) : Prop where
  consistent : s.Consistent
  holds : ∃ c, x.toConstant? = some c ∧ s.Holds v c.spelled

lemma access_reflects {a : Access} (h : Reflects x v s)
    (hfold : x.foldIndex (.int a.index) a.splat = some y) :
    ∃ found, s.access v a = .ok found ∧ Reflects y found.1 found.2 := by
  obtain ⟨hs, c, hc, hv⟩ := h
  obtain ⟨xs, rfl, rfl⟩ := Operand.foldIndex_eq_some_iff.mp hfold
  obtain ⟨cs, hcs, rfl⟩ := Operand.toConstant?_array_eq_some_iff.mp hc
  obtain ⟨vs, hvs, hall⟩ := hv
  have hconstants := Operand.toConstants?_eq_some_iff.mp hcs
  rw [Constant.spelledAll_eq_map, holdsAll_iff, List.forall₂_map_right_iff] at hall
  rw [access, hvs, Operand.fetch_eq]
  rcases a.splat with _ | _
  · refine ⟨_, rfl, hs, itemAt cs a.index .nil, forall₂_itemAt hconstants _ rfl, ?_⟩
    exact forall₂_itemAt hall _ rfl
  · refine ⟨_, rfl, consistent_alloc hs _, .array (itemsFrom cs a.index), ?_, ?_⟩
    · exact Operand.toConstant?_array_eq_some_iff.mpr
        ⟨_, Operand.toConstants?_eq_some_iff.mpr (forall₂_itemsFrom hconstants _), rfl⟩
    · refine holds_newList hs ?_
      rw [Constant.spelledAll_eq_map, holdsAll_iff, List.forall₂_map_right_iff]
      exact forall₂_itemsFrom hall _

/-- **Walking a value is folding its operand.** -/
lemma walk_reflects (h : Reflects x v s) (accesses : List Access)
    (hfold : x.foldAll accesses = some y) :
    ∃ found, s.walk v accesses = .ok found ∧ Reflects y found.1 found.2 := by
  induction accesses generalizing x v s with
  | nil =>
    obtain rfl : x = y := Option.some.inj hfold
    exact ⟨_, rfl, h⟩
  | cons a accesses ih =>
    obtain ⟨z, hz, hrest⟩ := Option.bind_eq_some_iff.mp hfold
    obtain ⟨found, hfound, hreflects⟩ := access_reflects h hz
    obtain ⟨last, hlast, hend⟩ := ih hreflects hrest
    refine ⟨last, ?_, hend⟩
    rw [walk, hfound]
    exact hlast

end Store

end Dirlang
