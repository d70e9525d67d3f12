import Mathlib
import Dirlang.Proofs.Machine.Events
import Dirlang.Proofs.Machine.Runs
import Dirlang.Proofs.Store.Constants

/-!
Whether values can be written out, over whole runs.

Only making a list can put an end to it, namely one of whose items leads to the slot that the list
gets. Such an item is or contains a reference to a list released before, for the slot is empty
then. Nothing else that runs on a machine makes such lists.
-/

namespace Dirlang

open Relation

variable {E : Embedding} {m : Machine E}

/-- The event makes no list that contains itself. -/
def Event.Untangled (m : Machine E) (e : Event E) : Prop :=
  ∀ items, e = .alloc (.list items) → ¬ m.store.Closes items

lemma Event.Own.untangled {e : Event E} (h : e.Own) (m : Machine E) : e.Untangled m := by
  rintro items rfl ⟨r, hmem, -⟩
  cases h with
  | strings names => simp at hmem

namespace Machine

open Event (Untangled)

lemma acyclic_after (h : m.store.Consistent) (ha : m.store.Acyclic) {e : Event E} :
    (m.after e).store.Acyclic ↔ e.Untangled m := by
  cases e with
  | alloc o =>
    cases o with
    | list items => simpa [Untangled, after] using Store.acyclic_alloc_list h ha
    | dir d => simpa [Untangled, after] using ha.mono (Store.links_alloc_dir h d)
  | release v => simpa [Untangled, after] using ha.mono (Store.links_release m.store v)
  | change v f => simpa [Untangled, after] using ha.mono (Store.links_updateDir m.store v f)
  | _ => simpa [Untangled, after, install] using ha

/-- A run without tangles is one that is acyclic all along. -/
lemma acyclic_afterAll_iff (h : m.store.Consistent) (ha : m.store.Acyclic) (es : List (Event E)) :
    m.Obeys Untangled es ↔
      ∀ before, before <+: es → (m.afterAll before).store.Acyclic := by
  induction es generalizing m with
  | nil =>
    refine ⟨fun _ before hbefore => ?_, fun _ => trivial⟩
    rwa [List.prefix_nil.mp hbefore]
  | cons e es ih =>
    constructor
    · rintro ⟨he, hes⟩ (_ | ⟨e', before⟩) hbefore
      · exact ha
      · obtain ⟨rfl, hrest⟩ := List.cons_prefix_cons.mp hbefore
        exact (ih (consistent_after h e') ((acyclic_after h ha).mpr he)).mp hes before hrest
    · intro hall
      have hafter : (m.after e).store.Acyclic := hall [e] (by simp)
      refine ⟨(acyclic_after h ha).mp hafter, ?_⟩
      exact (ih (consistent_after h e) hafter).mpr fun before hbefore =>
        hall (e :: before) (List.cons_prefix_cons.mpr ⟨rfl, hbefore⟩)

/-- What a store grows to is what a run without tangles makes of it. -/
lemma exists_run_of_grows {s : Store} (hgrows : ReflTransGen Store.Grows m.store s) :
    ∃ es, m.Obeys Untangled es ∧ m.afterAll es = { m with store := s } := by
  induction hgrows with
  | refl => exact ⟨[], trivial, rfl⟩
  | tail _ hstep ih =>
    obtain ⟨items, hnot, rfl⟩ := hstep
    obtain ⟨es, hes, hafter⟩ := ih
    refine ⟨es ++ [.alloc (.list items)], obeys_append.mpr ⟨hes, ?_, trivial⟩, ?_⟩
    · rintro items' ⟨⟩
      rwa [hafter]
    · rw [afterAll_append, hafter]
      rfl

/-- **When everything can be written out.** At every moment of a run from a start, no list
contains itself and all values have a text, if and only if the run makes no list one of whose items
leads to the slot that the list gets. Standard functions and methods make none by themselves,
whatever blocks they are given, nor do opening, releasing and constants; and a new list is none
as long as all lists that its items lead to are there. -/
theorem rendering_ends_iff :
    (∀ config files environment data (es : List (Event E)),
      let m := start config files environment data
      m.Obeys Untangled es ↔
        ∀ before, before <+: es →
          (m.afterAll before).store.Acyclic ∧ ∀ v, ((m.afterAll before).store.text? v).isSome) ∧
    (∀ block : Option (Block (Logged E)),
      (∀ b ∈ block, ∀ args, (b args).Obeys Untangled) →
        (∀ args f, (Action.standard args block f).Obeys Untangled) ∧
        ∀ v name args, (Action.callMethod v name args block).Obeys Untangled) ∧
    (∀ path, (Action.openDir path : Logged E Value).Obeys Untangled) ∧
    (∀ v, (Action.release v : Logged E Bool).Obeys Untangled) ∧
    ∀ m : Machine E, m.Reachable →
      (∀ c, ∃ es, m.Obeys Untangled es ∧
        m.afterAll es = { m with store := (m.store.materialize c).2 }) ∧
      ∀ items, (∀ v ∈ items, m.store.Grounded v) →
        m.Obeys Untangled ((Action.newList items : Logged E Value) m).2 := by
  have hown (m : Machine E) (e : Event E) (h : e.Own) : e.Untangled m := h.untangled m
  refine ⟨fun config files environment data es => ?_, fun block hblock => ⟨?_, ?_⟩,
    Action.obeys_openDir hown, Action.obeys_release hown, fun m hm => ⟨fun c => ?_, ?_⟩⟩
  · refine (acyclic_afterAll_iff Store.consistent_empty Store.acyclic_empty es).trans ?_
    refine forall₂_congr fun before _ => ?_
    rw [← Store.acyclic_iff_isSome_text?, and_self]
  · exact Action.obeys_standard hown hblock
  · exact Action.obeys_callMethod hown hblock
  · exact exists_run_of_grows (Store.materialize_grows c m.store hm.consistent).1
  · rintro items hitems
    refine ⟨?_, trivial⟩
    rintro _ ⟨⟩
    exact Store.not_closes_of_grounded hm.consistent hitems

/-- A list in a list: neither closes a cycle, and the outer one has a text. -/
theorem rendering_ends_nested :
    let es : List (Event (Script.scene Catalog)) :=
      [.alloc (.list []), .alloc (.list [.list ⟨0⟩])]
    atRoot.Obeys Untangled es ∧ ((atRoot.afterAll es).store.text? (.list ⟨1⟩)).isSome := by
  intro es
  have hempty := (rendering_ends_iff.2.2.2.2 atRoot reachable_atRoot).2 [] (by simp)
  have houter := (rendering_ends_iff.2.2.2.2 (atRoot.after (.alloc (.list [])))
    (reachable_atRoot.afterAll [.alloc (.list [])])).2 [.list ⟨0⟩] (by
      rintro v hv r q rfl hq
      obtain ⟨⟩ := List.mem_singleton.mp hv
      rcases hq.cases_head with rfl | ⟨_, ⟨_, ⟨⟩, hmem⟩, -⟩
      · exact fun h => by cases h
      · cases hmem)
  have hes : atRoot.Obeys Untangled es := ⟨hempty.1, houter.1, trivial⟩
  exact ⟨hes, ((rendering_ends_iff.1 _ _ _ _ es).mp hes es List.prefix_rfl).2 (.list ⟨1⟩)⟩

/-- Makes a list of a list that it has released. -/
def reusing : Action E Value := do
  let v ← Action.newList []
  let _ ← Action.release v
  Action.newList [v]

/-- A list of a released one gets its slot: it contains itself, and its text never ends. -/
theorem reusing_tangles :
    let ended := atRoot.run reusing
    ended.1 = .ok (.list ⟨0⟩) ∧ ¬ ended.2.store.Acyclic ∧
      ∀ depth, ended.2.store.textWithin depth (.list ⟨0⟩) = none := by
  intro ended
  have hlink : ended.2.store.Links ⟨0⟩ ⟨0⟩ := ⟨[.list ⟨0⟩], rfl, List.mem_singleton_self _⟩
  refine ⟨rfl, fun h => h ⟨0⟩ (.single hlink), ?_⟩
  rw [← Store.text?_eq_none_iff, Store.text?_list_eq_none_iff]
  exact ⟨⟨0⟩, .refl, .single hlink⟩

end Machine

end Dirlang
