import Mathlib
import Dirlang.Proofs.Machine.Runs

/-!
Copies of a released value.

They dangle until an allocation hands out the very same value again. From then on they stand for
the new object, and nothing tells them from the value that the allocation answered.
-/

namespace Dirlang

/-- What a method checks before it looks its directory up. -/
def Method.check (args : List Value) (hasBlock : Bool) : Method → Except Error Unit
  | .seek | .setPos => (Value.onlyOf args).bind fun w => w.expectInt.map fun _ => ()
  | .each => (Value.noneOf args).bind fun _ => if hasBlock then .ok () else .error .noBlock
  | _ => Value.noneOf args

/-- The error of a method call through a value behind which there is nothing. -/
def Value.refusal (v : Value) (name : String) (args : List Value) (hasBlock : Bool) : Error :=
  match v, Method.ofName? name with
  | .dir _, some f => match f.check args hasBlock with
    | .error e => e
    | .ok () => .danglingObject
  | _, _ => .noMethod name v.typeName

namespace Machine

variable {E : Embedding} {m : Machine E} {v : Value} {r : Ref} {α β : Type}

lemma run_bind_of_error {x : Action E α} {e : Error} (h : m.run x = (.error e, m))
    (f : α → Action E β) : m.run (x >>= f) = (.error e, m) := by
  rw [run_bind, h]

lemma run_lift_bind {x : Except Error α} {f : α → Action E β} {y : α → Except Error β}
    (h : ∀ a, m.run (f a) = (y a, m)) : m.run (liftM x >>= f) = (x.bind y, m) := by
  rw [run_bind, run_lift]
  cases x with
  | error e => rfl
  | ok a => exact h a

lemma run_method_of_error {e : Error} (h : m.store.dir v = .error e) (args : List Value)
    (block : Option (Block (Action E))) (f : Method) :
    m.run (Action.method v args block f) =
      ((f.check args block.isSome).bind fun _ => .error e, m) := by
  have hdir : m.run (Action.dir v) = (.error e, m) := by rw [run_dir, h]
  have hupdate (g : Dir → Dir) : m.run (Action.updateDir v g) = (.error e, m) := by
    rw [run_updateDir, h]
  -- every method looks its directory up before it does anything else
  cases f with
  | close | rewind => exact run_lift_bind fun _ => run_bind_of_error (hupdate _) _
  | entries | path | tell | read => exact run_lift_bind fun _ => run_bind_of_error hdir _
  | each =>
    rcases block with _ | b
    · -- without a block it fails before that
      refine (run_lift_bind fun _ => run_throw m .noBlock).trans ?_
      simp only [Method.check]
      rcases Value.noneOf args with e' | _ <;> rfl
    · refine (run_lift_bind fun _ => run_bind_of_error hdir _).trans ?_
      simp only [Method.check]
      rcases Value.noneOf args with e' | _ <;> rfl
  | seek | setPos =>
    refine (run_lift_bind fun w => run_lift_bind fun _ => run_bind_of_error (hupdate _) _).trans ?_
    simp only [Method.check]
    rcases Value.onlyOf args with e' | w
    · rfl
    · simp only [Except.bind]
      rcases w.expectInt with e' | i <;> rfl

/-- Nothing is reached through the value: whatever is tried fails as if its slot were empty. -/
structure Dangling (m : Machine E) (v : Value) : Prop where
  dir : ∀ r, v = .dir r → m.run (Action.dir v) = (.error .danglingObject, m)
  items : ∀ r, v = .list r → m.store.items v = .error .danglingObject
  method : ∀ name args block,
    m.run (Action.callMethod v name args block) = (.error (v.refusal name args block.isSome), m)

lemma dangling_iff (hv : v.ref? = some r) : m.Dangling v ↔ ¬ m.store.Live v := by
  cases v with
  | list r' =>
    refine ⟨fun h hlive => ?_, fun h => ⟨?_, fun _ _ => Store.items_of_not_live h, ?_⟩⟩
    · obtain ⟨items, hitems⟩ := Store.live_list_iff.mp hlive
      have := h.items r' rfl
      simp [Store.items, hitems] at this
    · rintro _ ⟨⟩
    · exact fun name args block => rfl
  | dir r' =>
    refine ⟨fun h hlive => ?_, fun h => ?_⟩
    · obtain ⟨d, hd⟩ := Store.live_dir_iff.mp hlive
      have := h.dir r' rfl
      simp [run_dir, Store.dir, hd] at this
    · have hdir := Store.dir_of_not_live h
      refine ⟨fun _ _ => by rw [run_dir, hdir], ?_, fun name args block => ?_⟩
      · rintro _ ⟨⟩
      · unfold Action.callMethod Value.refusal
        rcases Method.ofName? name with _ | f
        · rfl
        · dsimp only
          rw [run_method_of_error hdir]
          cases f.check args block.isSome <;> rfl
  | _ => cases hv

lemma run_release_iff (hv : v.ref? = some r) :
    m.run (Action.release v) = (.ok false, m) ↔ m.store.get? r = none := by
  rw [run_release, Store.release, hv]
  constructor
  · intro h
    simpa using congrArg Prod.fst h
  · intro h
    simp [after, Store.release, hv, Store.free_of_none h]

lemma get?_of_run_release {m₁ : Machine E} (h : m.run (Action.release v) = (.ok true, m₁)) :
    ∃ r, v.ref? = some r ∧ m₁ = m.after (.release v) ∧ m₁.store.get? r = none := by
  rw [run_release, Store.release] at h
  obtain ⟨htrue, rfl⟩ := Prod.mk.inj h
  rcases hv : v.ref? with _ | r
  · simp [hv] at htrue
  · refine ⟨r, rfl, rfl, ?_⟩
    simp [after, Store.release, hv, Store.get?_free]

/-- **How long a released value dangles.** Let a value be released, and let any run go on from
there. Looking up a copy of it fails, and so does every method call through it, without a trace,
exactly as long as the run has not handed out the value anew, or has released it again; releasing
a copy does nothing exactly as long as no value whatever has been handed out on its slot and kept
there. -/
theorem dangling_afterAll_iff (hm : m.Reachable) {m₁ : Machine E}
    (hv : m.run (Action.release v) = (.ok true, m₁)) (es : List (Event E)) :
    let later := m₁.afterAll es
    (later.Dangling v ↔ ¬ m₁.HandsOut es v) ∧
      (later.run (Action.release v) = (.ok false, later) ↔
        ∀ w : Value, w.ref? = v.ref? → ¬ m₁.HandsOut es w) := by
  obtain ⟨r, hr, rfl, hnone⟩ := get?_of_run_release hv
  have hconsistent := consistent_after hm.consistent (.release v)
  have hlive {w : Value} (hw : w.ref? = some r) :
      ((m.after (.release v)).afterAll es).store.Live w ↔ (m.after (.release v)).HandsOut es w := by
    rw [live_afterAll hconsistent hw]
    have := Store.get?_eq_none_iff.mp hnone w hw
    tauto
  intro later
  refine ⟨by rw [dangling_iff hr, hlive hr], ?_⟩
  rw [run_release_iff hr, Store.get?_eq_none_iff, hr]
  exact forall₂_congr fun w hw => not_congr (hlive hw)

/-- A list is released, and a directory opened in its place: the list dangles and yet its copies
release the directory. -/
theorem dangling_afterAll_other_kind :
    let m := atRoot.after (.alloc (.list []))
    let later := (m.after (.release (.list ⟨0⟩))).opened "/"
    later.Dangling (.list ⟨0⟩) ∧
      later.run (Action.release (.list ⟨0⟩)) ≠ (.ok false, later) := by
  intro m later
  have hm : m.Reachable := reachable_atRoot.afterAll [.alloc (.list [])]
  have h := dangling_afterAll_iff hm (v := .list ⟨0⟩) rfl
    [.alloc (.dir (.ofListing "/" (Dir.listing m.files (m.resolve "/"))))]
  refine ⟨h.1.mpr ?_, fun hrelease => ?_⟩
  · rintro ⟨before, o, rest, hes, ho, -⟩
    rcases before with _ | ⟨e, before⟩
    · cases hes; cases ho
    · cases before <;> cases hes
  · exact h.2.mp hrelease (.dir ⟨0⟩) rfl ⟨[], _, [], rfl, rfl, fun _ _ => not_released_nil⟩

/-- Released values do not dangle forever: a new list is read through the old one. -/
theorem not_dangling_forever :
    ¬ ∀ (m m₁ : Machine (Script.scene Catalog)) (v : Value), m.Reachable →
      m.run (Action.release v) = (.ok true, m₁) → ∀ es, (m₁.afterAll es).Dangling v := by
  intro h
  have hm := reachable_atRoot.afterAll [.alloc (.list [])]
  have hlist := (h _ _ (.list ⟨0⟩) hm rfl [.alloc (.list [.nil])]).items ⟨0⟩ rfl
  cases hlist

end Machine

end Dirlang
