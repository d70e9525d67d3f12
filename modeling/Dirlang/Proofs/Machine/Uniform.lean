import Mathlib
import Dirlang.Machine.Functions

/-!
The standard functions and the methods are written for any monad that runs on a machine, so they
treat all such monads alike. A relation between the code of two monads that the constructs respect
holds between the functions of the one and those of the other, whenever it holds between their
blocks. What a relation has to be checked for is only the few changes that the functions make.

Changes to a directory are made on values that the code has opened itself, or that a method is
called on. A relation may require of such values that they are `New`.
-/

namespace Dirlang

variable {E : Embedding} {M N : Type → Type} [MonadMachine E M] [MonadMachine E N]

/-- An event that a standard function or a method may cause itself, its block apart. -/
inductive Event.Own : Event E → Prop
  | dir (d : Dir) : Own (.alloc (.dir d))
  | strings (names : List String) : Own (.alloc (.list (names.map .str)))
  | release (v : Value) : Own (.release v)
  | change (v : Value) (f : Dir → Dir) : Own (.change v f)
  | goTo (dir : String) : Own (.goTo dir)
  | files (files : E.Files) : Own (.files files)

/-- Where the event goes, if it goes to another directory. -/
def Event.target? : Event E → Option String
  | .goTo dir => some dir
  | _ => none

/-- The methods that change the directory they are called on. -/
def Method.Moves : Method → Prop
  | .close | .seek | .setPos | .read | .rewind => True
  | .each | .entries | .path | .tell => False

/-- The relation is respected by all that functions and methods consist of, but for going to
another directory. -/
structure Uniform (New : Value → Prop) (R : ∀ α : Type, M α → N α → Prop) : Prop where
  pure {α : Type} (a : α) : R α (pure a) (pure a)
  throw {α : Type} (e : Error) : R α (throw e) (throw e)
  bind {α β : Type} {x : M α} {y : N α} {f : α → M β} {g : α → N β} :
    R α x y → (∀ a, R β (f a) (g a)) → R β (x >>= f) (y >>= g)
  tryCatch {α : Type} {x : M α} {y : N α} {f : Error → M α} {g : Error → N α} :
    R α x y → (∀ e, R α (f e) (g e)) → R α (tryCatch x f) (tryCatch y g)
  discard {α : Type} {x : M α} {y : N α} : R α x y → R Unit (discard x) (discard y)
  look : R (Machine E) look look
  newStrings (names : List String) :
    R Value (Action.newStrings names) (Action.newStrings names)
  openDir (path : String) : R Value (Action.openDir path) (Action.openDir path)
  openDir_bind (path : String) {α : Type} {f : Value → M α} {g : Value → N α} :
    (∀ v, New v → R α (f v) (g v)) →
      R α (Action.openDir path >>= f) (Action.openDir path >>= g)
  updateDir {v : Value} (f : Dir → Dir) : New v →
    R Unit (Action.updateDir v f) (Action.updateDir v f)
  release {v : Value} : New v → R Bool (Action.release v) (Action.release v)
  files (files : E.Files) : R Unit (perform (.files files)) (perform (.files files))

namespace Uniform

section

variable {New : Value → Prop} {R : ∀ α : Type, M α → N α → Prop}
  (hpure : ∀ {α : Type} (a : α), R α (Pure.pure a) (Pure.pure a))
  (hthrow : ∀ {α : Type} (e : Error), R α (MonadExcept.throw e) (MonadExcept.throw e))
  (hbind : ∀ {α β : Type} {x : M α} {y : N α} {f : α → M β} {g : α → N β},
    R α x y → (∀ a, R β (f a) (g a)) → R β (x >>= f) (y >>= g))
  (htryCatch : ∀ {α : Type} {x : M α} {y : N α} {f : Error → M α} {g : Error → N α},
    R α x y → (∀ e, R α (f e) (g e)) →
      R α (MonadExcept.tryCatch x f) (MonadExcept.tryCatch y g))
  (hdiscard : ∀ {α : Type} {x : M α} {y : N α},
    R α x y → R Unit (Functor.discard x) (Functor.discard y))
  (hlook : R (Machine E) Dirlang.look Dirlang.look)
include hpure hthrow hbind htryCatch hdiscard hlook

lemma of_perform
    (hperform : ∀ e : Event E, e.Own → e.target? = none → (∀ v f, e = .change v f → New v) →
      R Unit (Dirlang.perform e) (Dirlang.perform e))
    (hopenDir_bind : ∀ (path : String) {α : Type} {f : Value → M α} {g : Value → N α},
      R Value (Action.openDir path) (Action.openDir path) → (∀ v, New v → R α (f v) (g v)) →
        R α (Action.openDir path >>= f) (Action.openDir path >>= g)) :
    Uniform New R := by
  have hlift {α : Type} (x : Except Error α) : R α (liftM x) (liftM x) := by
    cases x with
    | error e => exact hthrow e
    | ok a => exact hpure a
  have hopenDir (path : String) : R Value (Action.openDir path) (Action.openDir path) :=
    hbind hlook fun m => hbind (hlift _) fun d =>
      hbind (hperform _ (.dir d) rfl nofun) fun _ => hpure _
  exact {
    pure := hpure
    throw := hthrow
    bind := hbind
    tryCatch := htryCatch
    discard := hdiscard
    look := hlook
    newStrings := fun names =>
      hbind hlook fun m => hbind (hperform _ (.strings names) rfl nofun) fun _ => hpure _
    openDir := hopenDir
    openDir_bind := fun path _ _ _ hfg => hopenDir_bind path (hopenDir path) hfg
    updateDir := fun {v} f hv => by
      refine hbind (hbind hlook fun m => hlift _) fun _ => hperform _ (.change v f) rfl ?_
      rintro _ _ ⟨⟩
      exact hv
    release := fun {v} _ =>
      hbind hlook fun m => hbind (hperform _ (.release v) rfl nofun) fun _ => hpure _
    files := fun files => hperform _ (.files files) rfl nofun }

lemma of_own
    (hperform : ∀ e : Event E, e.Own → e.target? = none →
      R Unit (Dirlang.perform e) (Dirlang.perform e)) :
    Uniform (fun _ => True) R :=
  of_perform hpure hthrow hbind htryCatch hdiscard hlook (fun e he hstill _ => hperform e he hstill)
    fun _ _ _ _ hopen hfg => hbind hopen fun v => hfg v trivial

end

variable {New : Value → Prop} {R : ∀ α : Type, M α → N α → Prop} (h : Uniform New R)
  {α β : Type}
include h

lemma lift (x : Except Error α) : R α (liftM x) (liftM x) := by
  cases x with
  | error e => exact h.throw e
  | ok a => exact h.pure a

lemma lift_bind (x : Except Error α) {f : α → M β} {g : α → N β} (hfg : ∀ a, R β (f a) (g a)) :
    R β (liftM x >>= f) (liftM x >>= g) :=
  h.bind (h.lift x) hfg

lemma forM {l : List β} {f : β → M Unit} {g : β → N Unit} (hfg : ∀ b ∈ l, R Unit (f b) (g b)) :
    R Unit (forM l f) (forM l g) := by
  induction l with
  | nil => exact h.pure ()
  | cons b l ih =>
    rw [List.forM_cons, List.forM_cons]
    exact h.bind (hfg b List.mem_cons_self) fun _ =>
      ih fun b' hb' => hfg b' (List.mem_cons_of_mem _ hb')

lemma attempt {x : M α} {y : N α} (hxy : R α x y) :
    R (Except Error α) (Action.attempt x) (Action.attempt y) :=
  h.tryCatch (h.bind hxy fun _ => h.pure _) fun _ => h.pure _

lemma dir (v : Value) : R Dir (Action.dir v) (Action.dir v) :=
  h.bind h.look fun m => h.lift (m.store.dir v)

/-- Both blocks are there and related, or none is. -/
abbrev Blocks (R : ∀ α : Type, M α → N α → Prop) : Option (Block M) → Option (Block N) → Prop :=
  Option.Rel fun b c => ∀ args, R Value (b args) (c args)

lemma eachName (d : Dir) {b : Block M} {c : Block N} (hbc : ∀ args, R Value (b args) (c args)) :
    R Unit (Action.eachName d b) (Action.eachName d c) :=
  h.forM fun _ _ => h.discard (hbc _)

variable {block : Option (Block M)} {block' : Option (Block N)} (hblock : Blocks R block block')

lemma updating {v : Value} (hv : New v) (f : Dir → Dir) (w : Value) :
    R Value (do Action.updateDir v f; return w) (do Action.updateDir v f; return w) :=
  h.bind (h.updateDir f hv) fun _ => h.pure w

include hblock

lemma method {v : Value} {f : Method} (hv : f.Moves → New v) (args : List Value) :
    R Value (Action.method v args block f) (Action.method v args block' f) := by
  cases f with
  | close | rewind => exact h.lift_bind _ fun _ => h.updating (hv trivial) _ _
  | seek | setPos =>
    exact h.lift_bind _ fun _ => h.lift_bind _ fun _ => h.updating (hv trivial) _ _
  | read =>
    refine h.lift_bind _ fun _ => h.bind (h.dir v) fun d => h.lift_bind _ fun r => ?_
    exact h.updating (hv trivial) _ _
  | path => exact h.lift_bind _ fun _ => h.bind (h.dir v) fun d => h.lift_bind _ fun _ => h.pure _
  | tell => exact h.lift_bind _ fun _ => h.bind (h.dir v) fun d => h.pure _
  | entries => exact h.lift_bind _ fun _ => h.bind (h.dir v) fun d => h.newStrings _
  | each =>
    refine h.lift_bind _ fun _ => ?_
    cases hblock with
    | none => exact h.throw _
    | some hbc => exact h.bind (h.dir v) fun d => h.bind (h.eachName d hbc) fun _ => h.pure v

lemma callMethod {v : Value} {name : String}
    (hv : ∀ f, Method.ofName? name = some f → f.Moves → New v) (args : List Value) :
    R Value (Action.callMethod v name args block) (Action.callMethod v name args block') := by
  unfold Action.callMethod
  split
  · next hf => exact h.method hblock (hv _ hf) args
  · exact h.throw _

lemma openDirFor (path : String) :
    R Value (Action.openDirFor path block) (Action.openDirFor path block') := by
  refine h.openDir_bind path fun v hv => ?_
  cases hblock with
  | none => exact h.pure v
  | some hbc =>
    refine h.bind (h.attempt (hbc _)) fun outcome => h.bind (h.updateDir _ hv) fun _ => ?_
    cases outcome with
    | error e => exact h.throw e
    | ok _ => exact h.pure _

lemma foreach (path : String) :
    R Value (Action.foreach path block) (Action.foreach path block') := by
  refine h.openDir_bind path fun v hv => ?_
  refine h.bind (h.attempt (h.method hblock (fun _ => hv) _)) fun outcome => ?_
  refine h.bind (h.release hv) fun _ => ?_
  cases outcome with
  | error e => exact h.throw e
  | ok _ => exact h.pure _

lemma glob (pattern : String) :
    R Value (Action.glob pattern block) (Action.glob pattern block') := by
  refine h.bind h.look fun m => ?_
  rcases FileSystem.glob m.files m.currentDir pattern with e | paths
  · exact h.throw _
  · cases hblock with
    | none => exact h.newStrings paths
    | some hbc => exact h.bind (h.forM fun _ _ => h.discard (hbc _)) fun _ => h.pure _

omit hblock in
lemma rmdir (path : String) : R Value (Action.rmdir path) (Action.rmdir path) := by
  refine h.bind h.look fun m => ?_
  dsimp only
  split
  · refine h.bind (h.files _) fun _ => ?_
    split
    · exact h.pure _
    · exact h.throw _
  · exact h.throw _

omit hblock in
lemma mkdir (path : String) : R Value (Action.mkdir path) (Action.mkdir path) := by
  refine h.bind h.look fun m => ?_
  dsimp only
  split
  · exact h.throw _
  · refine h.bind (h.files _) fun _ => ?_
    split <;> exact h.pure _

lemma standard_of_ne {f : DirFunction} (hf : f ≠ .chdir) (args : List Value) :
    R Value (Action.standard args block f) (Action.standard args block' f) := by
  cases f with
  | newDir => exact h.lift_bind _ fun path => h.openDir path
  | openDir => exact h.lift_bind _ fun path => h.openDirFor hblock path
  | entries =>
    exact h.lift_bind _ fun path => h.bind h.look fun m => h.lift_bind _ fun names =>
      h.newStrings names
  | foreach => exact h.lift_bind _ fun path => h.foreach hblock path
  | glob => exact h.lift_bind _ fun pattern => h.glob hblock pattern
  | chdir => exact absurd rfl hf
  | chroot => exact h.lift_bind _ fun _ => h.throw _
  | getwd => exact h.lift_bind _ fun _ => h.bind h.look fun m => h.pure _
  | mkdir =>
    rcases args with _ | ⟨v, _ | ⟨w, _ | ⟨u, rest⟩⟩⟩
    · exact h.throw _
    · exact h.lift_bind _ fun path => h.mkdir path
    · exact h.lift_bind _ fun path => h.mkdir path
    · exact h.throw _
  | rmdir => exact h.lift_bind _ fun path => h.rmdir path

/-! ### Going to another directory -/

omit hblock in
lemma within (hgoTo : ∀ dir, R Unit (perform (.goTo dir)) (perform (.goTo dir))) (dir : String)
    {x : M α} {y : N α} (hxy : R α x y) :
    R α (Action.within dir x) (Action.within dir y) :=
  h.bind h.look fun _ => h.bind (hgoTo _) fun _ => h.bind (h.attempt hxy) fun _ =>
    h.bind (hgoTo _) fun _ => h.lift _

variable (hgoTo : ∀ dir, R Unit (perform (.goTo dir)) (perform (.goTo dir)))
include hgoTo

lemma chdir (path : String) :
    R Value (Action.chdir path block) (Action.chdir path block') := by
  refine h.bind h.look fun m => ?_
  dsimp only
  split
  · cases hblock with
    | none => exact h.bind (hgoTo _) fun _ => h.pure _
    | some hbc => exact h.within hgoTo _ (hbc _)
  · exact h.throw _

/-- **Standard functions are uniform.** They are related if their blocks are. -/
theorem standard (args : List Value) (f : DirFunction) :
    R Value (Action.standard args block f) (Action.standard args block' f) := by
  by_cases hf : f = .chdir
  · subst hf
    rcases args with _ | ⟨v, _ | ⟨w, rest⟩⟩
    · exact h.bind h.look fun m => h.lift_bind _ fun path => h.chdir hblock hgoTo path
    · exact h.lift_bind _ fun path => h.chdir hblock hgoTo path
    · exact h.throw _
  · exact h.standard_of_ne hblock hf args

end Uniform

end Dirlang
