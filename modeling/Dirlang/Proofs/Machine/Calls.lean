import Mathlib
import Dirlang.Proofs.Machine.Runs
import Dirlang.Store.Constants

/-!
What can be done with a machine from outside, call by call.

Besides the standard functions and the methods these are the operations of the machine itself. All
of them are written for any monad that runs on a machine, and are uniform: a relation between the
code of two monads holds between calls if it holds between their blocks and between the few changes
that calls make themselves.

Standard functions are called here as what they are. By which names they are called on a machine
that has just been started is said by `Machine.run_call_start`, and by which names methods are, by
`Machine.run_callMethod`.
-/

namespace Dirlang

variable {E : Embedding} {M : Type → Type}

namespace Action

variable [MonadMachine E M]

mutual

/-- The value of a constant, with its lists made inside out. -/
def materialize : Constant → M Value
  | .nil => return .nil
  | .bool b => return .bool b
  | .int i => return .int i
  | .float x => return .float x
  | .str t => return .str t
  | .symbol name => return .str name
  | .array cs => do newList (← materializeAll cs)

def materializeAll : List Constant → M (List Value)
  | [] => return []
  | c :: cs => do
    let v ← materialize c
    return v :: (← materializeAll cs)

end

end Action

namespace Machine

mutual

lemma run_materialize : (c : Constant) → (m : Machine E) →
    m.run (Action.materialize c) =
      (.ok (m.store.materialize c).1, { m with store := (m.store.materialize c).2 })
  | .nil, _ | .bool _, _ | .int _, _ | .float _, _ | .str _, _ | .symbol _, _ => rfl
  | .array cs, m => by
    rw [Action.materialize, run_bind, run_materializeAll cs m]
    rfl

lemma run_materializeAll : (cs : List Constant) → (m : Machine E) →
    m.run (Action.materializeAll cs) =
      (.ok (m.store.materializeAll cs).1, { m with store := (m.store.materializeAll cs).2 })
  | [], _ => rfl
  | c :: cs, m => by
    rw [Action.materializeAll, run_bind, run_materialize c m]
    dsimp only
    rw [run_bind, run_materializeAll cs]
    rfl

end

end Machine

/-- What can be done with a machine from outside. -/
inductive Call (E : Embedding)
  | function (f : DirFunction) (args : List Value)
  | method (v : Value) (name : String) (args : List Value)
  | newList (items : List Value)
  | materialize (c : Constant)
  | openDir (path : String)
  | release (v : Value)
  /-- Runs the block in another current directory. -/
  | within (dir : String)
  /-- The file system changes, or is exchanged for another. -/
  | files (files : E.Files)
  | environment (environment : Environment)
  | data (data : E.Data)

namespace Call

variable [MonadMachine E M]

/-- The code of a call; most calls leave a block alone. -/
def code (block : Option (Block M)) : Call E → M Value
  | .function f args => Action.standard args block f
  | .method v name args => Action.callMethod v name args block
  | .newList items => Action.newList items
  | .materialize c => Action.materialize c
  | .openDir path => Action.openDir path
  | .release v => do return .bool (← Action.release v)
  | .within dir => Action.within dir (match block with
    | some b => b []
    | none => return .nil)
  | .files fs => do
    perform (.files fs)
    return .nil
  | .environment env => do
    perform (.environment env)
    return .nil
  | .data d => do
    perform (.data d)
    return .nil

/-- The calls that go to another directory themselves. -/
def Goes : Call E → Prop
  | .function .chdir _ | .within _ => True
  | _ => False

end Call

/-! ### Calls are uniform -/

namespace Uniform

variable {N : Type → Type} [MonadMachine E M] [MonadMachine E N] {New : Value → Prop}
  {R : ∀ α : Type, M α → N α → Prop} (h : Uniform New R)
include h

lemma materializeAll {cs : List Constant}
    (hcs : ∀ c ∈ cs, R Value (Action.materialize c) (Action.materialize c)) :
    R (List Value) (Action.materializeAll cs) (Action.materializeAll cs) := by
  induction cs with
  | nil => exact h.pure _
  | cons c cs ih =>
    exact h.bind (hcs c List.mem_cons_self) fun _ =>
      h.bind (ih fun c' hc' => hcs c' (List.mem_cons_of_mem _ hc')) fun _ => h.pure _

variable (hperform : ∀ e : Event E, e.target? = none → (∀ v f, e ≠ .change v f) →
  R Unit (perform e) (perform e))
include hperform

lemma newList (items : List Value) :
    R Value (Action.newList items) (Action.newList items) :=
  h.bind h.look fun _ => h.bind (hperform _ rfl nofun) fun _ => h.pure _

lemma materialize (c : Constant) : R Value (Action.materialize c) (Action.materialize c) := by
  cases c with
  | array cs =>
    have hcs (c : Constant) (hc : c ∈ cs) := materialize c
    exact h.bind (h.materializeAll hcs) fun _ => h.newList hperform _
  | nil | bool | int | float | str | symbol => exact h.pure _

variable {block : Option (Block M)} {block' : Option (Block N)} (hblock : Blocks R block block')
  {c : Call E} (hnew : ∀ v name args, c = .method v name args → New v)
include hblock hnew

lemma code_of_not_goes (hc : ¬ c.Goes) : R Value (c.code block) (c.code block') := by
  have hdo {e : Event E} (he : e.target? = none) (hchange : ∀ v f, e ≠ .change v f) :
      R Value (do perform e; return .nil) (do perform e; return .nil) :=
    h.bind (hperform e he hchange) fun _ => h.pure _
  cases c with
  | function f args =>
    have hf : f ≠ .chdir := fun hf => hc (by rw [hf]; trivial)
    exact h.standard_of_ne hblock hf args
  | method v name args => exact h.callMethod hblock (fun _ _ _ => hnew v name args rfl) args
  | newList items => exact h.newList hperform items
  | materialize c => exact h.materialize hperform c
  | openDir path => exact h.openDir path
  | release v =>
    exact h.bind (h.bind h.look fun _ => h.bind (hperform _ rfl nofun) fun _ => h.pure _)
      fun _ => h.pure _
  | within dir => exact absurd trivial hc
  | files | environment | data => exact hdo rfl nofun

/-- **Calls are uniform.** They are related if their blocks are. -/
lemma code (hgoTo : ∀ dir, R Unit (perform (.goTo dir)) (perform (.goTo dir))) :
    R Value (c.code block) (c.code block') := by
  by_cases hc : c.Goes
  · cases c with
    | function f args => exact h.standard hblock hgoTo args f
    | within dir =>
      refine h.within hgoTo dir ?_
      cases hblock with
      | none => exact h.pure _
      | some hbc => exact hbc []
    | _ => exact hc.elim
  · exact h.code_of_not_goes hperform hblock hnew hc

end Uniform

end Dirlang
