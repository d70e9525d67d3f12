import Mathlib
import Dirlang.Proofs.Machine.Running
import Dirlang.Proofs.Machine.Uniform

/-!
The same code, run with a log.

Logged code answers how it ended and what it did, event by event, and does nothing else: where it
leaves the machine is where these events lead. The functions and methods are written for any
monad that runs on a machine, so they log as well, and without the log they are the actions again.
Runs of a machine are therefore lists of events, in which whatever happens in the block of a call
stands where it happens.
-/

namespace Dirlang

variable {E : Embedding} {α β : Type}

namespace Machine

def afterAll (m : Machine E) (es : List (Event E)) : Machine E := es.foldl after m

@[simp] lemma afterAll_nil (m : Machine E) : m.afterAll [] = m := rfl
@[simp] lemma afterAll_cons (m : Machine E) (e : Event E) (es : List (Event E)) :
    m.afterAll (e :: es) = (m.after e).afterAll es := rfl
@[simp] lemma afterAll_append (m : Machine E) (es more : List (Event E)) :
    m.afterAll (es ++ more) = (m.afterAll es).afterAll more := by
  simp [afterAll, List.foldl_append]

end Machine

/-- Code that answers how it ended and what it did. -/
def Logged (E : Embedding) (α : Type) : Type := Machine E → Except Error α × List (Event E)

namespace Logged

/-- Goes on after an outcome, from the machine that `es` led to. -/
def andThen (m : Machine E) (es : List (Event E)) (next : Logged E β) :
    Except Error β × List (Event E) :=
  ((next (m.afterAll es)).1, es ++ (next (m.afterAll es)).2)

instance : MonadMachine E (Logged E) where
  pure a := fun _ => (.ok a, [])
  bind x f := fun m => match x m with
    | (.ok a, es) => andThen m es (f a)
    | (.error e, es) => (.error e, es)
  throw e := fun _ => (.error e, [])
  tryCatch x handle := fun m => match x m with
    | (.ok a, es) => (.ok a, es)
    | (.error e, es) => andThen m es (handle e)
  look := fun m => (.ok m, [])
  perform e := fun _ => (.ok (), [e])

lemma apply_bind (x : Logged E α) (f : α → Logged E β) (m : Machine E) :
    (x >>= f) m = match x m with
      | (.ok a, es) => andThen m es (f a)
      | (.error e, es) => (.error e, es) := rfl

lemma apply_tryCatch (x : Logged E α) (handle : Error → Logged E α) (m : Machine E) :
    (tryCatch x handle : Logged E α) m = match x m with
      | (.ok a, es) => (.ok a, es)
      | (.error e, es) => andThen m es (handle e) := rfl

/-- What is left of logged code without its log. -/
def act (x : Logged E α) : Action E α := fun m => ((x m).1, m.afterAll (x m).2)

lemma run_act (m : Machine E) (x : Logged E α) :
    m.run x.act = ((x m).1, m.afterAll (x m).2) := rfl

lemma act_ext {x : Logged E α} {y : Action E α} (h : ∀ m : Machine E, m.run x.act = m.run y) :
    x.act = y :=
  funext h

lemma act_bind (x : Logged E α) (f : α → Logged E β) :
    (x >>= f).act = x.act >>= fun a => (f a).act := by
  refine act_ext fun m => ?_
  rw [Machine.run_bind, run_act, run_act, apply_bind]
  rcases x m with ⟨e | a, es⟩
  · rfl
  · simp [andThen, run_act]

lemma act_bind_eq {x : Logged E α} {y : Action E α} {f : α → Logged E β} {g : α → Action E β}
    (hx : x.act = y) (hf : ∀ a, (f a).act = g a) : (x >>= f).act = y >>= g := by
  rw [act_bind, hx, funext hf]

lemma act_tryCatch (x : Logged E α) (handle : Error → Logged E α) :
    (tryCatch x handle).act = tryCatch x.act fun e => (handle e).act := by
  refine act_ext fun m => ?_
  rw [Machine.run_tryCatch, run_act, run_act, apply_tryCatch]
  rcases x m with ⟨e | a, es⟩
  · simp [andThen, run_act]
  · rfl

end Logged

/-- A block without its log. -/
def Block.act (b : Block (Logged E)) : Block (Action E) := fun args => (b args).act

namespace Action

open Logged

lemma uniform_act :
    Uniform (fun _ => True) fun α (x : Logged E α) (y : Action E α) => x.act = y :=
  .of_own (fun _ => rfl) (fun _ => rfl) act_bind_eq
    (fun hx hf => by rw [act_tryCatch, hx, funext hf])
    (fun hx => act_bind_eq (f := fun _ => pure ()) hx fun _ => rfl) rfl fun _ _ _ => rfl

variable (block : Option (Block (Logged E)))

lemma blocks_act :
    Uniform.Blocks (fun α (x : Logged E α) (y : Action E α) => x.act = y) block
      (block.map Block.act) := by
  cases block with
  | none => exact .none
  | some b => exact .some fun _ => rfl

lemma act_callMethod (v : Value) (name : String) (args : List Value) :
    (callMethod v name args block).act = callMethod v name args (block.map Block.act) :=
  uniform_act.callMethod (blocks_act block) (fun _ _ _ => trivial) args

/-- **The log tells what happens.** A standard function, run with a log, does what it does without
one. -/
lemma act_standard (args : List Value) (f : DirFunction) :
    (standard args block f).act = standard args (block.map Block.act) f :=
  uniform_act.standard (blocks_act block) (fun _ => rfl) args f

end Action

end Dirlang
