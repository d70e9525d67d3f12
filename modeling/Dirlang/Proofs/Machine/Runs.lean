import Mathlib
import Dirlang.Proofs.Machine.Log
import Dirlang.Proofs.Store.Live
import Dirlang.Script.Run
import Dirlang.Files.Catalog

/-!
Runs of a machine: what the events of a run make of its store.

A value is live after a run when it was handed out, before the run or in it, and not released
since. That is all that is known about it: the store does not tell one object that a value stood
for from the next.
-/

namespace Dirlang

variable {E : Embedding} {m : Machine E} {v : Value} {r : Ref}

/-- The event releases what is in the slot. -/
def Event.Releases (e : Event E) (r : Ref) : Prop := ∃ w, e = .release w ∧ w.ref? = some r

instance (e : Event E) (r : Ref) : Decidable (e.Releases r) :=
  match e with
  | .release w => decidable_of_iff (w.ref? = some r) (by simp [Event.Releases])
  | .alloc _ | .change _ _ | .goTo _ | .files _ | .environment _ | .install _ | .data _ =>
    isFalse (by simp [Event.Releases])

/-- Some event releases what is in the slot. -/
def Released (es : List (Event E)) (r : Ref) : Prop := ∃ e ∈ es, e.Releases r

instance (es : List (Event E)) (r : Ref) : Decidable (Released es r) :=
  inferInstanceAs (Decidable (∃ e ∈ es, e.Releases r))

@[simp] lemma not_released_nil : ¬ Released ([] : List (Event E)) r := by
  simp [Released]

@[simp] lemma released_cons {e : Event E} {es : List (Event E)} :
    Released (e :: es) r ↔ e.Releases r ∨ Released es r := by
  simp [Released]

namespace Machine

/-- A machine that some run from some start leads to. -/
def Reachable (m : Machine E) : Prop :=
  ∃ config files environment data es, m = (start config files environment data).afterAll es

/-- An allocation of the run answers `v`, and what it got is not released until the end. -/
def HandsOut (m : Machine E) (es : List (Event E)) (v : Value) : Prop :=
  ∃ before o rest, es = before ++ .alloc o :: rest ∧
    o.valueAt (m.afterAll before).store.next = v ∧ ∀ r, v.ref? = some r → ¬ Released rest r

@[simp] lemma not_handsOut_nil : ¬ m.HandsOut [] v := by
  rintro ⟨before, o, rest, h, -⟩
  cases before <;> cases h

lemma handsOut_cons {e : Event E} {es : List (Event E)} (hv : v.ref? = some r) :
    m.HandsOut (e :: es) v ↔
      (∃ o, e = .alloc o ∧ o.valueAt m.store.next = v) ∧ ¬ Released es r ∨
        (m.after e).HandsOut es v := by
  constructor
  · rintro ⟨_ | ⟨e', before⟩, o, rest, hes, ho, hrest⟩
    · cases hes
      exact .inl ⟨⟨o, rfl, ho⟩, hrest r hv⟩
    · cases hes
      exact .inr ⟨before, o, rest, rfl, ho, hrest⟩
  · rintro (⟨⟨o, rfl, ho⟩, hrest⟩ | ⟨before, o, rest, rfl, ho, hrest⟩)
    · refine ⟨[], o, es, rfl, ho, fun r' hr' => ?_⟩
      rw [hv, Option.some.injEq] at hr'
      exact hr' ▸ hrest
    · exact ⟨e :: before, o, rest, rfl, ho, hrest⟩

/-! ### One event -/

lemma consistent_after (h : m.store.Consistent) (e : Event E) : (m.after e).store.Consistent := by
  cases e with
  | alloc o => exact Store.consistent_alloc h o
  | release v =>
    change (m.store.release v).2.Consistent
    unfold Store.release
    split
    · exact Store.consistent_free h _
    · exact h
  | change v f =>
    cases v with
    | dir r => exact Store.consistent_update h r _
    | _ => exact h
  | _ => exact h

lemma live_after (h : m.store.Consistent) (hv : v.ref? = some r) (e : Event E) :
    (m.after e).store.Live v ↔
      m.store.Live v ∧ ¬ e.Releases r ∨ ∃ o, e = .alloc o ∧ o.valueAt m.store.next = v := by
  cases e with
  | alloc o => simp [after, Event.Releases, Store.live_alloc h]
  | release w => simp [after, Event.Releases, Store.live_release hv]
  | change w f => simp [after, Event.Releases, Store.live_updateDir]
  | _ => simp [after, install, Event.Releases]

/-! ### Whole runs -/

lemma consistent_afterAll (h : m.store.Consistent) (es : List (Event E)) :
    (m.afterAll es).store.Consistent := by
  induction es generalizing m with
  | nil => exact h
  | cons e es ih => exact ih (consistent_after h e)

lemma Reachable.consistent (h : m.Reachable) : m.store.Consistent := by
  obtain ⟨config, files, environment, data, es, rfl⟩ := h
  exact consistent_afterAll Store.consistent_empty es

lemma Reachable.afterAll (h : m.Reachable) (es : List (Event E)) : (m.afterAll es).Reachable := by
  obtain ⟨config, files, environment, data, before, rfl⟩ := h
  exact ⟨config, files, environment, data, before ++ es, (afterAll_append ..).symm⟩

lemma Reachable.run {α : Type} (h : m.Reachable) (x : Logged E α) : (m.run x.act).2.Reachable :=
  h.afterAll (x m).2

lemma Reachable.standard (h : m.Reachable) (args : List Value) (block : Option (Block (Logged E)))
    (f : DirFunction) : (m.run (Action.standard args (block.map Block.act) f)).2.Reachable :=
  Action.act_standard block args f ▸ h.run _

lemma Reachable.callMethod (h : m.Reachable) (v : Value) (name : String) (args : List Value)
    (block : Option (Block (Logged E))) :
    (m.run (Action.callMethod v name args (block.map Block.act))).2.Reachable :=
  Action.act_callMethod block v name args ▸ h.run _

/-- A value is live after a run if it was live before and nothing released it, or if the run
handed it out and nothing released it since. -/
lemma live_afterAll (h : m.store.Consistent) (hv : v.ref? = some r) (es : List (Event E)) :
    (m.afterAll es).store.Live v ↔ m.store.Live v ∧ ¬ Released es r ∨ m.HandsOut es v := by
  induction es generalizing m with
  | nil => simp
  | cons e es ih =>
    rw [afterAll_cons, ih (consistent_after h e), live_after h hv, handsOut_cons hv, released_cons,
      not_or, ← and_assoc, or_and_right, or_assoc]

lemma live_of_not_released (h : m.store.Consistent) (hv : v.ref? = some r) {es : List (Event E)}
    (hlive : m.store.Live v) (hes : ¬ Released es r) : (m.afterAll es).store.Live v :=
  (live_afterAll h hv es).mpr (.inl ⟨hlive, hes⟩)

/-! ### A start -/

/-- A machine whose files are a single directory without entries. -/
def atRoot : Machine (Script.scene Catalog) :=
  start {} { Catalog.empty with dirs := [("/", [])] } ⟨[], none⟩ .empty

lemma reachable_atRoot : atRoot.Reachable := ⟨_, _, _, _, [], rfl⟩

end Machine

end Dirlang
