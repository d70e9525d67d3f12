import Mathlib
import Dirlang.Proofs.Machine.Programs

/-!
Blocks that are called with names in turn.
-/

namespace Dirlang

variable {E : Embedding} {v : Value}

/-- The block is called with the names in turn, up to the first call that fails. That failure is the
outcome; it is `v` if there is none. -/
def Visits (v : Value) : List String → List (List Value × Except Error Value) →
    Except Error Value → Prop
  | [], calls, outcome => calls = [] ∧ outcome = .ok v
  | name :: names, calls, outcome => ∃ result rest, calls = ([.str name], result) :: rest ∧
    match result with
    | .ok _ => Visits v names rest outcome
    | .error e => rest = [] ∧ outcome = .error e

/-- The block never fails. -/
def Block.Succeeds (b : Block (Traced E)) : Prop := ∀ args m, ∃ w, (b args m).1 = .ok w

namespace Trace

lemma invocations_append (t u : Trace E) :
    (t ++ u).invocations = t.invocations ++ u.invocations := by
  induction t with
  | nil => rfl
  | event e t ih => exact ih
  | part label outcome inside t _ ih =>
    cases label with
    | call c given => exact ih
    | block args => exact congrArg _ ih

end Trace

namespace Traced

lemma apply_discard_told (b : Block (Traced E)) (args : List Value) (m : Machine E) :
    (discard (b.told args) : Traced E Unit) m =
      ((b args m).1.map fun _ => (), .part (.block args) (b args m).1 (b args m).2 .nil) := by
  have h : (discard (b.told args) : Traced E Unit) =
      part (.block args) (b args) >>= fun _ => pure () := rfl
  rw [h, apply_bind, apply_part]
  rcases b args m with ⟨e | a, t⟩ <;> rfl

lemma visits_forM (b : Block (Traced E)) (names : List String) (m : Machine E) :
    let visited := (forM names fun name => discard (b.told [.str name]) : Traced E Unit) m
    Visits v names visited.2.invocations (visited.1.map fun _ => v) := by
  induction names generalizing m with
  | nil => exact ⟨rfl, rfl⟩
  | cons name names ih =>
    have hname := apply_discard_told b [.str name] m
    rcases hb : b [.str name] m with ⟨e | a, t⟩ <;> rw [hb] at hname
    · rw [List.forM_cons, apply_bind_of_error hname]
      exact ⟨.error e, [], rfl, rfl, rfl⟩
    · rw [List.forM_cons, apply_bind_of_ok hname]
      refine ⟨.ok a, _, rfl, ?_⟩
      simp only [andThen, Trace.events_part, Trace.events_nil, List.append_nil]
      exact ih (m.afterAll t.events)

lemma apply_forM_of_succeeds {b : Block (Traced E)} (hb : b.Succeeds) (names : List String)
    (m : Machine E) :
    let visited := (forM names fun name => discard (b.told [.str name]) : Traced E Unit) m
    visited.1 = .ok () ∧ visited.2.invocations.map Prod.fst = names.map ([.str ·]) := by
  induction names generalizing m with
  | nil => exact ⟨rfl, rfl⟩
  | cons name names ih =>
    have hname := apply_discard_told b [.str name] m
    obtain ⟨w, hw⟩ := hb [.str name] m
    rw [hw] at hname
    rw [List.forM_cons, apply_bind_of_ok hname]
    obtain ⟨houtcome, hcalls⟩ := ih (m.afterAll (b [.str name] m).2.events)
    simp only [andThen, Trace.events_part, Trace.events_nil, List.append_nil]
    exact ⟨houtcome, congrArg (List.cons [Value.str name]) hcalls⟩

end Traced

end Dirlang
