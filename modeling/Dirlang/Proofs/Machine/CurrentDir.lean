import Mathlib
import Dirlang.Proofs.Machine.Programs

/-!
Where the machine is.

Only `chdir` and `within` go to another directory. With a block they come back to where they
started, however the block ended and wherever it went; only without a block is the new directory
there to stay. So the machine ends up where the last call of that kind led that was not inside a
block of such a call.
-/

namespace Dirlang

open Relation

variable {E : Embedding} {m : Machine E} {α : Type}

namespace Machine

/-- The machine with another current directory. -/
def inDir (m : Machine E) (dir : String) : Machine E := { m with currentDir := dir }

/-- The code, run once in another directory, and then back to the one before. -/
def runIn (m : Machine E) (dir : String) (body : Action E α) : Except Error α × Machine E :=
  let ended := (m.inDir dir).run body
  (ended.1, ended.2.inDir m.currentDir)

lemma run_within (m : Machine E) (dir : String) (body : Action E α) :
    m.run (Action.within dir body) = m.runIn dir body := by
  rw [Action.within, run_bind, run_look]
  dsimp only
  rw [run_bind, run_perform]
  dsimp only
  rw [run_bind, run_attempt]
  dsimp only
  rw [run_bind, run_perform]
  exact run_lift _ _

lemma currentDir_run_within (m : Machine E) (dir : String) (body : Action E α) :
    (m.run (Action.within dir body)).2.currentDir = m.currentDir := by
  rw [run_within]
  rfl

/-- The path that `chdir` is asked for. -/
def destination (m : Machine E) : List Value → Except Error String
  | [] => m.home
  | [v] => v.expectStr
  | args => .error (.arity 0 1 args.length)

/-- The directory at a path, by its real name if the file system knows one. -/
def real (m : Machine E) (path : String) : String :=
  match FileSystem.canonicalize m.files (m.resolve path) with
  | .ok real => real
  | .error _ => m.resolve path

lemma run_chdir_of_path (m : Machine E) (path : String) (block : Option (Block (Action E))) :
    m.run (Action.chdir path block) =
      if FileSystem.isDir m.files (m.resolve path) then match block with
        | some b => m.runIn (m.real path) (b [.str path])
        | none => (.ok (.int 0), m.inDir (m.real path))
      else (.error (.notADirectory path), m) := by
  rw [Action.chdir, run_bind, run_look]
  dsimp only
  split
  · cases block with
    | none => rfl
    | some b => exact run_within _ _ _
  · rfl

lemma run_chdir (m : Machine E) (args : List Value) (block : Option (Block (Action E))) :
    m.run (Action.standard args block .chdir) = match m.destination args with
      | .ok path =>
        if FileSystem.isDir m.files (m.resolve path) then match block with
          | some b => m.runIn (m.real path) (b [.str path])
          | none => (.ok (.int 0), m.inDir (m.real path))
        else (.error (.notADirectory path), m)
      | .error e => (.error e, m) := by
  have hpath (path : Except Error String) :
      m.run (liftM path >>= fun path => Action.chdir path block : Action E Value) =
        match path with
        | .ok path => m.run (Action.chdir path block)
        | .error e => (.error e, m) := by
    rw [run_bind, run_lift]
    cases path <;> rfl
  rcases args with _ | ⟨v, _ | ⟨w, rest⟩⟩
  · refine (hpath m.home).trans ?_
    simp only [run_chdir_of_path, destination]
  · refine (hpath v.expectStr).trans ?_
    simp only [run_chdir_of_path, destination]
  · rfl

lemma currentDir_run_chdir_some (m : Machine E) (args : List Value) (b : Block (Action E)) :
    (m.run (Action.standard args (some b) .chdir)).2.currentDir = m.currentDir := by
  rw [run_chdir]
  split
  · split <;> rfl
  · rfl

lemma currentDir_after (e : Event E) : (m.after e).currentDir = e.target?.getD m.currentDir := by
  cases e <;> rfl

end Machine

/-! ### Other calls -/

/-- A step of a call: an event of its own that goes nowhere, or an invocation of the block. -/
inductive Machine.Step (block : Option (Block (Action E))) (m : Machine E) : Machine E → Prop
  | own (e : Event E) (h : (m.after e).currentDir = m.currentDir) : Step block m (m.after e)
  | invocation {b : Block (Action E)} (hb : b ∈ block) (args : List Value) :
    Step block m (m.run (b args)).2

namespace Action

/-- The code goes nowhere but where invocations of the block lead. -/
def Led (block : Option (Block (Action E))) (x : Action E α) : Prop :=
  ∀ m : Machine E, ReflTransGen (Machine.Step block) m (m.run x).2

variable {block : Option (Block (Action E))} {β : Type}

lemma led_bind {x : Action E α} {f : α → Action E β} (hx : Led block x)
    (hf : ∀ a, Led block (f a)) : Led block (x >>= f) := by
  intro m
  have hm := hx m
  rw [Machine.run_bind]
  rcases hrun : m.run x with ⟨e | a, m'⟩ <;> rw [hrun] at hm
  · exact hm
  · exact hm.trans (hf a m')

lemma led_tryCatch {x : Action E α} {f : Error → Action E α} (hx : Led block x)
    (hf : ∀ e, Led block (f e)) : Led block (tryCatch x f) := by
  intro m
  have hm := hx m
  rw [Machine.run_tryCatch]
  rcases hrun : m.run x with ⟨e | a, m'⟩ <;> rw [hrun] at hm
  · exact hm.trans (hf e m')
  · exact hm

lemma led_perform {e : Event E} (he : e.target? = none) :
    Led block (perform e : Action E Unit) := by
  intro m
  refine .single (.own e ?_)
  rw [Machine.currentDir_after, he]
  rfl

lemma uniform_led (block : Option (Block (Action E))) :
    Uniform (fun _ => True) fun α (x : Action E α) (_ : Action E α) => Led block x :=
  .of_own (fun _ _ => .refl) (fun _ _ => .refl) led_bind led_tryCatch
    (fun hx => led_bind (f := fun _ => pure ()) hx fun _ _ => .refl) (fun _ => .refl)
    fun _ _ he => led_perform he

lemma blocks_led (block : Option (Block (Action E))) :
    Uniform.Blocks (fun α (x : Action E α) (_ : Action E α) => Led block x) block block := by
  cases block with
  | none => exact .none
  | some b => exact .some fun args _ => .single (.invocation rfl args)

lemma led_code {c : Call E} (hc : ¬ c.Goes) : Led block (c.code block) :=
  (uniform_led block).code_of_not_goes (fun _ he _ => led_perform he) (blocks_led block)
    (fun _ _ _ _ => trivial) hc

end Action

/-! ### Programs -/

/-- The moves that a part makes for good, when its events are `es` and the parts inside of it make
the moves `inner`. A call of `chdir` without a block makes one if it succeeds, and no move inside
of a call that comes back counts. -/
def Label.moves (outcome : Except Error Value) (es : List (Event E)) (inner : List String) :
    Label E → List String
  | .call (.function .chdir _) false => match outcome with
    | .ok _ => es.filterMap Event.target?
    | .error _ => []
  | .call (.function .chdir _) true | .call (.within _) _ => []
  | _ => inner

lemma Label.moves_of_not_goes {c : Call E} (hc : ¬ c.Goes) (given : Bool)
    (outcome : Except Error Value) (es : List (Event E)) (inner : List String) :
    Label.moves outcome es inner (.call c given) = inner := by
  cases c with
  | function f args => cases f <;> first | rfl | exact absurd trivial hc
  | within dir => exact absurd trivial hc
  | _ => rfl

namespace Trace

/-- The directories that the program went to for good, in order. -/
def moves : Trace E → List String
  | nil => []
  | event _ rest => rest.moves
  | part label outcome inside rest => label.moves outcome inside.events inside.moves ++ rest.moves

lemma moves_append (t u : Trace E) : (t ++ u).moves = t.moves ++ u.moves := by
  induction t with
  | nil => rfl
  | event e t ih => exact ih
  | part label outcome inside t _ ih =>
    rw [part_append, moves, moves, ih, List.append_assoc]

end Trace

/-- The trace ends where its last move led. -/
def Settles (m : Machine E) (t : Trace E) : Prop :=
  (m.afterAll t.events).currentDir = t.moves.getLast?.getD m.currentDir

lemma settles_composes : Trace.Composes (E := E) Settles where
  nil _ := rfl
  append {m t u} ht hu := by
    unfold Settles at *
    rw [Trace.events_append, Machine.afterAll_append, hu, ht, Trace.moves_append,
      List.getLast?_append, Option.getD_or]

namespace Traced

abbrev Settled (x : Traced E α) : Prop := Leaves Settles x

lemma settled_perform {e : Event E} (he : e.target? = none) :
    Settled (perform e : Traced E Unit) := by
  intro m
  change (m.after e).currentDir = m.currentDir
  rw [Machine.currentDir_after, he]
  rfl

lemma apply_within (dir : String) (x : Traced E Value) (m : Machine E) :
    (Action.within dir x) m = ((x (m.inDir dir)).1,
      .event (.goTo dir) ((x (m.inDir dir)).2 ++ .event (.goTo m.currentDir) .nil)) := by
  have hback (outcome : Except Error Value) (m' : Machine E) :
      (perform (.goTo m.currentDir) >>= fun _ => liftM outcome : Traced E Value) m' =
        (outcome, .event (.goTo m.currentDir) .nil) := by
    cases outcome <;> rfl
  rw [Action.within, apply_bind_of_ok (a := m) (t := .nil) rfl]
  dsimp only [andThen, Trace.events_nil, Machine.afterAll_nil]
  rw [apply_bind_of_ok (a := ()) (t := .event (.goTo dir) .nil) rfl]
  dsimp only [andThen, Trace.events_event, Trace.events_nil, Machine.afterAll_cons,
    Machine.afterAll_nil]
  rw [apply_bind_of_ok (apply_attempt x _)]
  simp only [andThen, hback]
  rfl

lemma apply_chdir_of_path (path : String) (block : Option (Block (Traced E))) (m : Machine E) :
    (Action.chdir path block : Traced E Value) m =
      if FileSystem.isDir m.files (m.resolve path) then match block with
        | some b => (Action.within (m.real path) (b [.str path]) : Traced E Value) m
        | none => (.ok (.int 0), .event (.goTo (m.real path)) .nil)
      else (.error (.notADirectory path), .nil) := by
  rw [Action.chdir, apply_bind_of_ok (a := m) (t := .nil) rfl]
  dsimp only [andThen, Trace.events_nil, Machine.afterAll_nil]
  split
  · cases block <;> rfl
  · rfl

lemma apply_chdir (args : List Value) (block : Option (Block (Traced E))) (m : Machine E) :
    (Action.standard args block .chdir : Traced E Value) m = match m.destination args with
      | .ok path => (Action.chdir path block : Traced E Value) m
      | .error e => (.error e, .nil) := by
  have hpath (path : Except Error String) :
      (liftM path >>= fun path => Action.chdir path block : Traced E Value) m = match path with
        | .ok path => (Action.chdir path block : Traced E Value) m
        | .error e => (.error e, .nil) := by
    cases path <;> rfl
  rcases args with _ | ⟨v, _ | ⟨w, rest⟩⟩
  · exact hpath m.home
  · exact hpath v.expectStr
  · rfl

variable {block : Option (Block (Traced E))}

abbrev SettledBlock (block : Option (Block (Traced E))) : Prop :=
  ∀ b ∈ block, ∀ args, Settled (b args)

lemma settled_told {b : Block (Traced E)} (hb : ∀ args, Settled (b args)) (args : List Value) :
    Settled (b.told args) := by
  intro m
  have hm : Settles m (b args m).2 := hb args m
  unfold Settles at *
  rw [Block.told, apply_part]
  simpa [Trace.moves, Label.moves] using hm

lemma settled_code (hblock : SettledBlock block) {c : Call E} (hc : ¬ c.Goes) :
    Settled (c.code (block.map Block.told)) :=
  leaves_code_of_not_goes settles_composes (fun _ => settled_perform)
    (fun b hb => settled_told (hblock b hb)) hc

lemma settles_of_back {x : Traced E Value} {label : Label E}
    (hlabel : ∀ outcome es inner, label.moves outcome es inner = [])
    (hback : (m.run x.act).2.currentDir = m.currentDir) : Settles m (part label x m).2 := by
  unfold Settles
  rw [apply_part]
  rw [run_act] at hback
  simpa [Trace.moves, hlabel] using hback

lemma settled_chdir (args : List Value) :
    Settled (part (.call (.function .chdir args) block.isSome)
      ((Call.function .chdir args).code (block.map Block.told))) := by
  intro m
  -- without a block this is the one call whose move stays
  rcases block with _ | b
  · rw [Settles, apply_part, Call.code, Option.map_none, apply_chdir]
    rcases m.destination args with e | path
    · rfl
    · dsimp only
      rw [apply_chdir_of_path]
      split <;> rfl
  · refine settles_of_back (fun _ _ _ => rfl) ?_
    rw [act_code]
    exact m.currentDir_run_chdir_some args _

lemma settled_call (hblock : SettledBlock block) (c : Call E) :
    Settled (part (.call c block.isSome) (c.code (block.map Block.told))) := by
  -- the calls that go somewhere come back, except for one
  by_cases hc : c.Goes
  · cases c with
    | function f args =>
      obtain rfl : f = .chdir := by cases f <;> first | rfl | exact hc.elim
      exact settled_chdir args
    | within dir =>
      refine fun m => settles_of_back (fun _ _ _ => rfl) ?_
      rw [act_code]
      cases block <;> exact m.currentDir_run_within dir _
    | _ => exact hc.elim
  · intro m
    have hm := settled_code hblock hc m
    unfold Settles at *
    rw [apply_part]
    simpa [Trace.moves, Label.moves_of_not_goes hc] using hm

/-- Programs end where their last move led. -/
lemma settled_run (p : Program E) : Settled p.run :=
  Program.leaves_run ⟨fun _ => settles_composes, fun _ c _ hblock => settled_call hblock c⟩ p none

end Traced

namespace Machine

/-- **The current directory of a machine.** Code that runs in another directory runs once there,
and its result is that of the call; all that it did to the machine stays, but for the directory,
which is the one before. So it is with `chdir` and a block. Without a block `chdir` goes where it
was asked to and answers zero, or fails and changes nothing. Any other call consists of events that
go nowhere and of invocations of its block. Hence a program ends in the directory that the last
`chdir` without a block went to, those in a scope not counted, and where it started if there is
none. -/
theorem current_dir (m : Machine E) :
    (∀ (α : Type) (dir : String) (body : Action E α),
      m.run (Action.within dir body) = m.runIn dir body) ∧
    (∀ args block, m.run (Action.standard args block .chdir) = match m.destination args with
      | .ok path =>
        if FileSystem.isDir m.files (m.resolve path) then match block with
          | some b => m.runIn (m.real path) (b [.str path])
          | none => (.ok (.int 0), m.inDir (m.real path))
        else (.error (.notADirectory path), m)
      | .error e => (.error e, m)) ∧
    (∀ (c : Call E) (block : Option (Block (Action E))), c.Goes ∨
      ReflTransGen (Step block) m (m.run (c.code block)).2) ∧
    ∀ p : Program E, (m.run p.run).2.currentDir =
      ((p.run : Traced E Value) m).2.moves.getLast?.getD m.currentDir := by
  refine ⟨fun _ => m.run_within, m.run_chdir, fun c block => ?_, fun p => ?_⟩
  · by_cases hc : c.Goes
    · exact .inl hc
    · exact .inr (Action.led_code hc m)
  · rw [← Program.act_run p, Traced.run_act]
    exact Traced.settled_run p m

end Machine

end Dirlang
