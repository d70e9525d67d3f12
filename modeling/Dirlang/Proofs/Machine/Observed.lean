import Mathlib
import Dirlang.Proofs.Machine.Running
import Dirlang.Proofs.Machine.Uniform

/-!
The same code, run with an eye on its block.

A block may be any code at all, whatever it makes of the machine. Observed code does what it does
otherwise, and answers besides which invocations of its block it made.
-/

namespace Dirlang

variable {E : Embedding} {α β : Type}

/-- An invocation of a block: its arguments, the machine that it was run on, and how it ended. -/
structure Invocation (E : Embedding) where
  args : List Value
  start : Machine E
  ended : Except Error Value × Machine E

/-- Code that just runs, and answers the invocations that it made. -/
def Observed (E : Embedding) (α : Type) : Type :=
  Machine E → (Except Error α × Machine E) × List (Invocation E)

namespace Observed

/-- Goes on after invocations that were made before. -/
def andThen (calls : List (Invocation E))
    (ended : (Except Error α × Machine E) × List (Invocation E)) :
    (Except Error α × Machine E) × List (Invocation E) :=
  (ended.1, calls ++ ended.2)

instance : MonadMachine E (Observed E) where
  pure a := fun m => ((.ok a, m), [])
  bind x f := fun m => match x m with
    | ((.ok a, m), calls) => andThen calls (f a m)
    | ((.error e, m), calls) => ((.error e, m), calls)
  throw e := fun m => ((.error e, m), [])
  tryCatch x handle := fun m => match x m with
    | ((.ok a, m), calls) => ((.ok a, m), calls)
    | ((.error e, m), calls) => andThen calls (handle e m)
  look := fun m => ((.ok m, m), [])
  perform e := fun m => ((.ok (), m.after e), [])

lemma apply_bind (x : Observed E α) (f : α → Observed E β) (m : Machine E) :
    (x >>= f) m = match x m with
      | ((.ok a, m), calls) => andThen calls (f a m)
      | ((.error e, m), calls) => ((.error e, m), calls) := rfl

lemma apply_bind_of_ok {x : Observed E α} {m m' : Machine E} {a : α}
    (h : x m = ((.ok a, m'), [])) (f : α → Observed E β) : (x >>= f) m = f a m' := by
  rw [apply_bind, h]
  rfl

lemma apply_look_bind (f : Machine E → Observed E β) (m : Machine E) : (look >>= f) m = f m m :=
  apply_bind_of_ok rfl f

lemma apply_perform_bind (e : Event E) (f : Unit → Observed E β) (m : Machine E) :
    (perform e >>= f) m = f () (m.after e) :=
  apply_bind_of_ok rfl f

lemma apply_bind_of_error {x : Observed E α} {m m' : Machine E} {e : Error}
    (h : x m = ((.error e, m'), [])) (f : α → Observed E β) :
    (x >>= f) m = ((.error e, m'), []) := by
  rw [apply_bind, h]

lemma apply_tryCatch (x : Observed E α) (handle : Error → Observed E α) (m : Machine E) :
    (tryCatch x handle : Observed E α) m = match x m with
      | ((.ok a, m), calls) => ((.ok a, m), calls)
      | ((.error e, m), calls) => andThen calls (handle e m) := rfl

lemma apply_lift (x : Except Error α) (m : Machine E) :
    (liftM x : Observed E α) m = ((x, m), []) := by
  cases x <;> rfl

/-- What is left of the code without an eye on its block. -/
def act (x : Observed E α) : Action E α := fun m => (x m).1

lemma run_act (m : Machine E) (x : Observed E α) : m.run x.act = (x m).1 := rfl

lemma act_ext {x : Observed E α} {y : Action E α} (h : ∀ m : Machine E, m.run x.act = m.run y) :
    x.act = y :=
  funext h

lemma act_bind (x : Observed E α) (f : α → Observed E β) :
    (x >>= f).act = x.act >>= fun a => (f a).act := by
  refine act_ext fun m => ?_
  rw [Machine.run_bind, run_act, run_act, apply_bind]
  rcases x m with ⟨⟨e | a, m'⟩, calls⟩ <;> rfl

lemma act_bind_eq {x : Observed E α} {y : Action E α} {f : α → Observed E β} {g : α → Action E β}
    (hx : x.act = y) (hf : ∀ a, (f a).act = g a) : (x >>= f).act = y >>= g := by
  rw [act_bind, hx, funext hf]

lemma act_tryCatch (x : Observed E α) (handle : Error → Observed E α) :
    (tryCatch x handle).act = tryCatch x.act fun e => (handle e).act := by
  refine act_ext fun m => ?_
  rw [Machine.run_tryCatch, run_act, run_act, apply_tryCatch]
  rcases x m with ⟨⟨e | a, m'⟩, calls⟩ <;> rfl

lemma uniform_act :
    Uniform (fun _ => True) fun α (x : Observed E α) (y : Action E α) => x.act = y :=
  .of_own (fun _ => rfl) (fun _ => rfl) act_bind_eq
    (fun hx hf => by rw [act_tryCatch, hx, funext hf])
    (fun hx => act_bind_eq (f := fun _ => pure ()) hx fun _ => rfl) rfl fun _ _ _ => rfl

lemma apply_attempt (x : Observed E α) (m : Machine E) :
    (Action.attempt x) m = ((.ok (x m).1.1, (x m).1.2), (x m).2) := by
  rw [Action.attempt, apply_tryCatch, apply_bind]
  rcases x m with ⟨⟨e | a, m'⟩, calls⟩ <;> simp [andThen, pure]

lemma uniform_silent :
    Uniform (fun _ => True) fun α (x : Observed E α) (y : Action E α) =>
      ∀ m, x m = (m.run y, []) := by
  have hbind {α β : Type} {x : Observed E α} {y : Action E α} {f : α → Observed E β}
      {g : α → Action E β} (hx : ∀ m, x m = (m.run y, [])) (hf : ∀ a m, f a m = (m.run (g a), []))
      (m : Machine E) : (x >>= f) m = (m.run (y >>= g), []) := by
    rw [apply_bind, hx, Machine.run_bind]
    rcases m.run y with ⟨e | a, m'⟩
    · rfl
    · exact congrArg (andThen []) (hf a m')
  refine .of_own (fun _ _ => rfl) (fun _ _ => rfl) hbind (fun {α x y f g} hx hf m => ?_)
    (fun hx => hbind (f := fun _ => pure ()) hx fun _ _ => rfl) (fun _ => rfl) fun _ _ _ _ => rfl
  rw [apply_tryCatch, hx, Machine.run_tryCatch]
  rcases m.run y with ⟨e | a, m'⟩
  · exact congrArg (andThen []) (hf e m')
  · rfl

section OpenDir

variable {m : Machine E} {path : String}

lemma apply_openDir_of_dir (hdir : FileSystem.isDir m.files (m.resolve path)) :
    (Action.openDir path : Observed E Value) m =
      ((.ok (.dir m.store.next), m.opened path), []) := by
  rw [uniform_silent.openDir path m, Machine.run_openDir, if_pos hdir]

lemma apply_openDir_of_not_dir (hdir : ¬ FileSystem.isDir m.files (m.resolve path)) :
    (Action.openDir path : Observed E Value) m = ((.error (.notADirectory path), m), []) := by
  rw [uniform_silent.openDir path m, Machine.run_openDir, if_neg hdir]

end OpenDir

end Observed

/-- A block whose invocations are answered. -/
def Block.observed (b : Block (Action E)) : Block (Observed E) := fun args m =>
  (m.run (b args), [⟨args, m, m.run (b args)⟩])

namespace Action

variable (block : Option (Block (Action E)))

lemma blocks_observed :
    Uniform.Blocks (fun α (x : Observed E α) (y : Action E α) => x.act = y)
      (block.map Block.observed) block := by
  cases block with
  | none => exact .none
  | some b => exact .some fun _ => rfl

lemma act_callMethod_observed (v : Value) (name : String) (args : List Value) :
    (callMethod v name args (block.map Block.observed)).act = callMethod v name args block :=
  Observed.uniform_act.callMethod (blocks_observed block) (fun _ _ _ => trivial) args

lemma act_standard_observed (args : List Value) (f : DirFunction) :
    (standard args (block.map Block.observed) f).act = standard args block f :=
  Observed.uniform_act.standard (blocks_observed block) (fun _ => rfl) args f

lemma run_standard_observed (m : Machine E) (args : List Value) (f : DirFunction) :
    m.run (standard args block f) =
      ((standard args (block.map Block.observed) f : Observed E Value) m).1 := by
  rw [← act_standard_observed block args f]
  rfl

end Action

/-! ### Calls by name -/

section Call

variable [Extension E] {m : Machine E} {name : String} {f : DirFunction} (args : List Value)

lemma Observed.apply_call_of_none (hfind : m.functions.find? name = none)
    (block : Option (Block (Observed E))) :
    (Action.call name args block : Observed E Value) m =
      ((.error (.noMethod name "runtime"), m), []) := by
  rw [Action.call, apply_look_bind, hfind]
  rfl

lemma Observed.apply_call_of_standard (hfind : m.functions.find? name = some (.standard f))
    (block : Option (Block (Observed E))) :
    (Action.call name args block : Observed E Value) m =
      (Action.standard args block f : Observed E Value) m := by
  rw [Action.call, apply_look_bind, hfind]
  rfl

lemma Machine.run_call_of_none (hfind : m.functions.find? name = none)
    (block : Option (Block (Action E))) :
    m.run (Action.call name args block) = (.error (.noMethod name "runtime"), m) := by
  rw [run_call, hfind]

lemma Machine.run_call_of_standard (hfind : m.functions.find? name = some (.standard f))
    (block : Option (Block (Action E))) :
    m.run (Action.call name args block) = m.run (Action.standard args block f) := by
  rw [run_call, hfind]
  rfl

end Call

end Dirlang
