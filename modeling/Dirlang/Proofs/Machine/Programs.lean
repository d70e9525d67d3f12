import Mathlib
import Dirlang.Proofs.Machine.Calls

/-!
Programs: whatever may be done with a machine from outside, call by call, where each call may depend
on all that happened before and may be given a block that is a program again.

A program leaves a trace. It tells what happened, in order, and which part of the program each event
belongs to: the calls, each with what was inside it, and inside the calls the invocations of their
blocks.
-/

namespace Dirlang

variable {E : Embedding} {M : Type → Type} {α β : Type}

/-- What a part of a program is. -/
inductive Label (E : Embedding)
  /-- A call, with a block or without. -/
  | call (c : Call E) (given : Bool)
  /-- An invocation of a block. -/
  | block (args : List Value)

/-- What happened: events, and parts with how they ended and what was inside. -/
inductive Trace (E : Embedding)
  | nil
  | event (e : Event E) (rest : Trace E)
  | part (label : Label E) (outcome : Except Error Value) (inside rest : Trace E)

namespace Trace

protected def append : Trace E → Trace E → Trace E
  | nil, u => u
  | event e t, u => event e (t.append u)
  | part label outcome inside t, u => part label outcome inside (t.append u)

instance : Append (Trace E) := ⟨Trace.append⟩

@[simp] lemma nil_append (u : Trace E) : nil ++ u = u := rfl
@[simp] lemma event_append (e : Event E) (t u : Trace E) : event e t ++ u = event e (t ++ u) := rfl
@[simp] lemma part_append (label : Label E) (outcome : Except Error Value) (inside t u : Trace E) :
    part label outcome inside t ++ u = part label outcome inside (t ++ u) := rfl

@[simp] lemma append_nil (t : Trace E) : t ++ nil = t := by
  induction t with
  | nil => rfl
  | event e t ih => rw [event_append, ih]
  | part label outcome inside t _ ih => rw [part_append, ih]

/-- All events, whatever part they belong to. -/
def events : Trace E → List (Event E)
  | nil => []
  | event e rest => e :: rest.events
  | part _ _ inside rest => inside.events ++ rest.events

@[simp] lemma events_nil : (nil : Trace E).events = [] := rfl
@[simp] lemma events_event (e : Event E) (t : Trace E) : (event e t).events = e :: t.events := rfl
@[simp] lemma events_part (label : Label E) (outcome : Except Error Value) (inside t : Trace E) :
    (part label outcome inside t).events = inside.events ++ t.events := rfl

@[simp] lemma events_append (t u : Trace E) : (t ++ u).events = t.events ++ u.events := by
  induction t with
  | nil => rfl
  | event e t ih => simp [ih]
  | part label outcome inside t _ ih => simp [ih]

/-- Every event satisfies `P` on the machine where it happens, for the innermost part that it
belongs to. -/
def Obeys (P : Option (Label E) → Machine E → Event E → Prop) (owner : Option (Label E)) :
    Machine E → Trace E → Prop
  | _, nil => True
  | m, event e rest => P owner m e ∧ rest.Obeys P owner (m.after e)
  | m, part label _ inside rest =>
    inside.Obeys P (some label) m ∧ rest.Obeys P owner (m.afterAll inside.events)

lemma obeys_append {P : Option (Label E) → Machine E → Event E → Prop}
    {owner : Option (Label E)} {m : Machine E} {t u : Trace E} :
    (t ++ u).Obeys P owner m ↔ t.Obeys P owner m ∧ u.Obeys P owner (m.afterAll t.events) := by
  induction t generalizing m with
  | nil => simp [Obeys]
  | event e t ih => simp [Obeys, ih, and_assoc]
  | part label outcome inside t _ ih => simp [Obeys, ih, and_assoc]

/-- The invocations of the block of a call, of which this is the inside: the arguments, and how
each ended. -/
def invocations : Trace E → List (List Value × Except Error Value)
  | nil => []
  | event _ rest => rest.invocations
  | part (.block args) outcome _ rest => (args, outcome) :: rest.invocations
  | part (.call _ _) _ _ rest => rest.invocations

end Trace

/-- Monads whose code tells its parts. -/
class MonadParts (E : outParam Embedding) (M : Type → Type) extends MonadMachine E M where
  part : Label E → M Value → M Value

export MonadParts (part)

instance : MonadParts E (Action E) where
  part _ x := x

/-- A block whose invocations are told. -/
def Block.told [MonadParts E M] (b : Block M) : Block M := fun args => part (.block args) (b args)

/-- A program: it ends, or goes on according to how the machine looks, or makes a call and goes on
according to how that ended. -/
inductive Program (E : Embedding)
  | done (result : Except Error Value)
  | look (next : Machine E → Program E)
  | call (c : Call E) (block : Option (List Value → Program E))
      (next : Except Error Value → Program E)

namespace Program

variable [MonadParts E M]

mutual

def run : Program E → M Value
  | .done result => liftM result
  | .look next => do (next (← Dirlang.look)).run
  | .call c block next => do
    let outcome ← Action.attempt (part (.call c block.isSome) (c.code (blockOf block)))
    (next outcome).run

def blockOf : Option (List Value → Program E) → Option (Block M)
  | none => none
  | some b => some (Block.told fun args => (b args).run)

end

lemma blockOf_eq (block : Option (List Value → Program E)) :
    (blockOf block : Option (Block M)) =
      (block.map fun b args => (b args).run).map Block.told := by
  cases block <;> rfl

end Program

/-! ### Code that leaves a trace -/

/-- Code that answers how it ended and the trace that it left. -/
def Traced (E : Embedding) (α : Type) : Type := Machine E → Except Error α × Trace E

namespace Traced

/-- Goes on after an outcome, from the machine that `t` led to. -/
def andThen (m : Machine E) (t : Trace E) (next : Traced E β) : Except Error β × Trace E :=
  ((next (m.afterAll t.events)).1, t ++ (next (m.afterAll t.events)).2)

instance : MonadParts E (Traced E) where
  pure a := fun _ => (.ok a, .nil)
  bind x f := fun m => match x m with
    | (.ok a, t) => andThen m t (f a)
    | (.error e, t) => (.error e, t)
  throw e := fun _ => (.error e, .nil)
  tryCatch x handle := fun m => match x m with
    | (.ok a, t) => (.ok a, t)
    | (.error e, t) => andThen m t (handle e)
  look := fun m => (.ok m, .nil)
  perform e := fun _ => (.ok (), .event e .nil)
  part label x := fun m => ((x m).1, .part label (x m).1 (x m).2 .nil)

lemma apply_bind (x : Traced E α) (f : α → Traced E β) (m : Machine E) :
    (x >>= f) m = match x m with
      | (.ok a, t) => andThen m t (f a)
      | (.error e, t) => (.error e, t) := rfl

lemma apply_bind_of_ok {x : Traced E α} {m : Machine E} {a : α} {t : Trace E}
    (h : x m = (.ok a, t)) (f : α → Traced E β) : (x >>= f) m = andThen m t (f a) := by
  rw [apply_bind, h]

lemma apply_bind_of_error {x : Traced E α} {m : Machine E} {e : Error} {t : Trace E}
    (h : x m = (.error e, t)) (f : α → Traced E β) : (x >>= f) m = (.error e, t) := by
  rw [apply_bind, h]

lemma apply_bind_pure (x : Traced E α) (b : β) (m : Machine E) :
    (x >>= fun _ => pure b) m = ((x m).1.map fun _ => b, (x m).2) := by
  rw [apply_bind]
  rcases x m with ⟨e | a, t⟩
  · rfl
  · exact congrArg _ (Trace.append_nil t)

lemma apply_tryCatch (x : Traced E α) (handle : Error → Traced E α) (m : Machine E) :
    (tryCatch x handle : Traced E α) m = match x m with
      | (.ok a, t) => (.ok a, t)
      | (.error e, t) => andThen m t (handle e) := rfl

lemma apply_attempt (x : Traced E α) (m : Machine E) :
    (Action.attempt x) m = (.ok (x m).1, (x m).2) := by
  rw [Action.attempt, apply_tryCatch, apply_bind]
  rcases x m with ⟨e | a, t⟩ <;> exact congrArg _ (Trace.append_nil t)

lemma apply_part (label : Label E) (x : Traced E Value) (m : Machine E) :
    (part label x : Traced E Value) m = ((x m).1, .part label (x m).1 (x m).2 .nil) := rfl

/-- What is left of the code without its trace. -/
def act (x : Traced E α) : Action E α := fun m => ((x m).1, m.afterAll (x m).2.events)

lemma run_act (m : Machine E) (x : Traced E α) :
    m.run x.act = ((x m).1, m.afterAll (x m).2.events) := rfl

lemma act_ext {x : Traced E α} {y : Action E α} (h : ∀ m : Machine E, m.run x.act = m.run y) :
    x.act = y :=
  funext h

lemma act_bind (x : Traced E α) (f : α → Traced E β) :
    (x >>= f).act = x.act >>= fun a => (f a).act := by
  refine act_ext fun m => ?_
  rw [Machine.run_bind, run_act, run_act, apply_bind]
  rcases x m with ⟨e | a, t⟩
  · rfl
  · simp [andThen, run_act]

lemma act_tryCatch (x : Traced E α) (handle : Error → Traced E α) :
    (tryCatch x handle).act = tryCatch x.act fun e => (handle e).act := by
  refine act_ext fun m => ?_
  rw [Machine.run_tryCatch, run_act, run_act, apply_tryCatch]
  rcases x m with ⟨e | a, t⟩
  · simp [andThen, run_act]
  · rfl

lemma act_bind_eq {x : Traced E α} {y : Action E α} {f : α → Traced E β} {g : α → Action E β}
    (hx : x.act = y) (hf : ∀ a, (f a).act = g a) : (x >>= f).act = y >>= g := by
  rw [act_bind, hx, funext hf]

lemma act_part (label : Label E) (x : Traced E Value) : (part label x).act = x.act := by
  refine act_ext fun m => ?_
  rw [run_act, run_act, apply_part]
  simp

lemma uniform_act :
    Uniform (fun _ => True) fun α (x : Traced E α) (y : Action E α) => x.act = y :=
  .of_own (fun _ => rfl) (fun _ => rfl) act_bind_eq
    (fun hx hf => by rw [act_tryCatch, hx, funext hf])
    (fun hx => act_bind_eq (f := fun _ => pure ()) hx fun _ => rfl) rfl fun _ _ _ => rfl

lemma act_code (block : Option (Block (Traced E))) (c : Call E) :
    (c.code block).act = c.code (block.map fun b args => (b args).act) := by
  refine uniform_act.code (fun _ _ _ => rfl) ?_ (fun _ _ _ _ => trivial) fun _ => rfl
  cases block with
  | none => exact .none
  | some b => exact .some fun _ => rfl

end Traced

/-! ### Properties of traces -/

/-- The property holds of the trace of nothing, and of a trace that goes on where another ended. -/
structure Trace.Composes (P : Machine E → Trace E → Prop) : Prop where
  nil (m : Machine E) : P m .nil
  append {m : Machine E} {t u : Trace E} : P m t → P (m.afterAll t.events) u → P m (t ++ u)

namespace Traced

/-- Wherever the code is run, the trace that it leaves has the property. -/
def Leaves (P : Machine E → Trace E → Prop) (x : Traced E α) : Prop := ∀ m, P m (x m).2

variable {P : Machine E → Trace E → Prop} (hP : Trace.Composes P)
include hP

lemma leaves_pure (a : α) : Leaves P (pure a : Traced E α) := hP.nil

lemma leaves_throw (e : Error) : Leaves P (throw e : Traced E α) := hP.nil

lemma leaves_look : Leaves P (look : Traced E (Machine E)) := hP.nil

lemma leaves_bind {x : Traced E α} {f : α → Traced E β} (hx : Leaves P x)
    (hf : ∀ a, Leaves P (f a)) : Leaves P (x >>= f) := by
  intro m
  have hm := hx m
  rw [apply_bind]
  rcases hrun : x m with ⟨e | a, t⟩ <;> rw [hrun] at hm
  · exact hm
  · exact hP.append hm (hf a _)

lemma leaves_tryCatch {x : Traced E α} {f : Error → Traced E α} (hx : Leaves P x)
    (hf : ∀ e, Leaves P (f e)) : Leaves P (tryCatch x f : Traced E α) := by
  intro m
  have hm := hx m
  rw [apply_tryCatch]
  rcases hrun : x m with ⟨e | a, t⟩ <;> rw [hrun] at hm
  · exact hP.append hm (hf e _)
  · exact hm

lemma leaves_lift (x : Except Error α) : Leaves P (liftM x : Traced E α) := by
  cases x with
  | error e => exact leaves_throw hP e
  | ok a => exact leaves_pure hP a

lemma leaves_attempt {x : Traced E α} (hx : Leaves P x) : Leaves P (Action.attempt x) :=
  leaves_tryCatch hP (leaves_bind hP hx fun _ => leaves_pure hP _) fun _ => leaves_pure hP _

lemma uniform_leaves {New : Value → Prop}
    (hperform : ∀ e : Event E, e.Own → e.target? = none → (∀ v f, e = .change v f → New v) →
      Leaves P (perform e : Traced E Unit))
    (hopenDir_bind : ∀ (path : String) {α : Type} {f : Value → Traced E α},
      Leaves P (Action.openDir path : Traced E Value) → (∀ v, New v → Leaves P (f v)) →
        Leaves P (Action.openDir path >>= f)) :
    Uniform New fun α (x : Traced E α) (_ : Traced E α) => Leaves P x :=
  .of_perform (leaves_pure hP) (leaves_throw hP) (leaves_bind hP) (leaves_tryCatch hP)
    (fun hx => leaves_bind hP (f := fun _ => pure ()) hx fun _ => leaves_pure hP ())
    (leaves_look hP) hperform fun path _ _ _ hopen hf => hopenDir_bind path hopen hf

variable (hperform : ∀ e : Event E, e.target? = none → Leaves P (perform e : Traced E Unit))
include hperform

lemma uniform_leaves_of_perform :
    Uniform (fun _ => True) fun α (x : Traced E α) (_ : Traced E α) => Leaves P x :=
  uniform_leaves hP (fun e _ he _ => hperform e he)
    fun _ _ _ hopen hf => leaves_bind hP hopen fun v => hf v trivial

lemma leaves_code_of_not_goes {block : Option (Block (Traced E))}
    (hblock : ∀ b ∈ block, ∀ args, Leaves P (Block.told b args)) {c : Call E} (hc : ¬ c.Goes) :
    Leaves P (c.code (block.map Block.told)) := by
  have htold : Uniform.Blocks (fun α (x : Traced E α) (_ : Traced E α) => Leaves P x)
      (block.map Block.told) (block.map Block.told) := by
    cases block with
    | none => exact .none
    | some b => exact .some fun args => hblock b rfl args
  exact (uniform_leaves_of_perform hP hperform).code_of_not_goes (fun e he _ => hperform e he)
    htold (fun _ _ _ _ => trivial) hc

end Traced

namespace Program

open Traced

mutual

/-- **A trace tells what happens.** A program that leaves its trace does what it does without. -/
theorem act_run : (p : Program E) → (p.run : Traced E Value).act = p.run
  | .done result => uniform_act.lift result
  | .look next => act_bind_eq rfl fun m => act_run (next m)
  | .call c block next => by
    refine act_bind_eq (uniform_act.attempt ?_) fun outcome => act_run (next outcome)
    have hcode := uniform_act.code (c := c) (fun _ _ _ => rfl) (act_blockOf block)
      (fun _ _ _ _ => trivial) fun _ => rfl
    exact (act_part _ _).trans hcode

theorem act_blockOf : (block : Option (List Value → Program E)) →
    Uniform.Blocks (fun α (x : Traced E α) (y : Action E α) => x.act = y)
      (blockOf block) (blockOf block)
  | none => .none
  | some b => .some fun args => (act_part _ _).trans (act_run (b args))

end

/-- The property, which may depend on the part that a trace belongs to, holds of what a call leaves
if it holds of what its block leaves. -/
structure Respected (P : Option (Label E) → Machine E → Trace E → Prop) : Prop where
  composes (owner : Option (Label E)) : Trace.Composes (P owner)
  call (owner : Option (Label E)) (c : Call E) (block : Option (Block (Traced E))) :
    (∀ b ∈ block, ∀ args, Leaves (P (some (.block args))) (b args)) →
      Leaves (P owner) (part (.call c block.isSome) (c.code (block.map Block.told)))

variable {P : Option (Label E) → Machine E → Trace E → Prop}

mutual

/-- What calls respect holds of whole programs. -/
theorem leaves_run (h : Respected P) : (p : Program E) → (owner : Option (Label E)) →
    Leaves (P owner) p.run
  | .done result, owner => leaves_lift (h.composes owner) result
  | .look next, owner =>
    leaves_bind (h.composes owner) (leaves_look (h.composes owner)) fun m =>
      leaves_run h (next m) owner
  | .call c block next, owner => by
    have hpart : Leaves (P owner) (part (.call c block.isSome) (c.code (blockOf block))) := by
      simpa only [blockOf_eq, Option.isSome_map] using h.call owner c _ (leaves_blocks h block)
    exact leaves_bind (h.composes owner) (leaves_attempt (h.composes owner) hpart) fun outcome =>
      leaves_run h (next outcome) owner

theorem leaves_blocks (h : Respected P) : (block : Option (List Value → Program E)) →
    ∀ b ∈ block.map fun b args => ((b args).run : Traced E Value),
      ∀ args, Leaves (P (some (.block args))) (b args)
  | none => nofun
  | some b => by
    rintro _ ⟨⟩ args
    exact leaves_run h (b args) _

end

end Program

end Dirlang
