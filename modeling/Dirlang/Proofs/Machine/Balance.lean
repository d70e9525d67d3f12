import Mathlib
import Dirlang.Proofs.Machine.Account
import Dirlang.Proofs.Machine.Enumeration

/-!
How many objects a machine holds.

Calls that answer a new list or directory add one object, opening a directory for a block adds one
as well, and a constant adds one for each of its arrays. Releasing takes one away. No other call
adds or takes anything, whatever its block does and however it ends. `foreach` takes a slot for its
directory and gives it back; this goes well as long as its block leaves that slot alone.
-/

namespace Dirlang

variable {E : Embedding} {m : Machine E} {α β : Type}

namespace Traced

/-! ### Code that adds nothing of its own -/

abbrev Balances (x : Traced E α) : Prop := Leaves Balanced x

lemma balances_pure (a : α) : Balances (pure a : Traced E α) := leaves_pure balanced_composes a

lemma balances_throw (e : Error) : Balances (throw e : Traced E α) :=
  leaves_throw balanced_composes e

lemma balances_look : Balances (look : Traced E (Machine E)) := leaves_look balanced_composes

lemma balances_bind {x : Traced E α} {f : α → Traced E β} (hx : Balances x)
    (hf : ∀ a, Balances (f a)) : Balances (x >>= f) :=
  leaves_bind balanced_composes hx hf

lemma balances_lift_bind (x : Except Error α) {f : α → Traced E β} (hf : ∀ a, Balances (f a)) :
    Balances (liftM x >>= f) :=
  balances_bind (leaves_lift balanced_composes x) hf

lemma balances_perform {e : Event E} (he : e.Steady) : Balances (perform e : Traced E Unit) := by
  intro m _ _
  change ((m.after e).store.size : ℤ) = m.store.size + 0
  rw [Machine.size_after_of_steady he, add_zero]

lemma balances_attempt {x : Traced E α} (hx : Balances x) : Balances (Action.attempt x) :=
  leaves_attempt balanced_composes hx

lemma balances_dir (v : Value) : Balances (Action.dir v : Traced E Dir) :=
  balances_bind balances_look fun m => leaves_lift balanced_composes (m.store.dir v)

lemma balances_updateDir (v : Value) (f : Dir → Dir) :
    Balances (Action.updateDir v f : Traced E Unit) :=
  balances_bind (balances_dir v) fun _ => balances_perform trivial

lemma balances_within (dir : String) {x : Traced E α} (hx : Balances x) :
    Balances (Action.within dir x) :=
  balances_bind balances_look fun _ => balances_bind (balances_perform trivial) fun _ =>
    balances_bind (balances_attempt hx) fun outcome => balances_bind (balances_perform trivial)
      fun _ => leaves_lift balanced_composes outcome

lemma balances_part {label : Label E} {x : Traced E Value} (hx : Balances x)
    (hlabel : ∀ outcome t, label.gain outcome t = 0) : Balances (part label x) := by
  intro m hm hkeeps
  rw [apply_part] at hkeeps ⊢
  have hinside := hx m hm hkeeps.2.1
  simpa [Trace.gain, hlabel] using hinside

abbrev BalancedBlock (block : Option (Block (Traced E))) : Prop :=
  ∀ b ∈ block, ∀ args, Balances (b args)

variable {block : Option (Block (Traced E))} {b : Block (Traced E)}

lemma balances_told (hb : ∀ args, Balances (b args)) (args : List Value) :
    Balances (b.told args) :=
  balances_part (hb args) fun _ _ => rfl

lemma leaves_forM {P : Machine E → Trace E → Prop} (hP : Trace.Composes P)
    (hb : ∀ args, Leaves P (b.told args)) (names : List String) :
    Leaves P (forM names fun name => discard (b.told [.str name]) : Traced E Unit) := by
  induction names with
  | nil => exact leaves_pure hP ()
  | cons name names ih =>
    rw [List.forM_cons]
    refine leaves_bind hP ?_ fun _ => ih
    exact leaves_bind hP (f := fun _ => pure ()) (hb _) fun _ => leaves_pure hP ()

lemma leaves_each {P : Machine E → Trace E → Prop} (hP : Trace.Composes P)
    (hblock : ∀ b ∈ block, ∀ args, Leaves P (Block.told b args)) (v : Value) (args : List Value) :
    Leaves P (Action.method v args (block.map Block.told) .each : Traced E Value) := by
  refine leaves_bind hP (leaves_lift hP _) fun _ => ?_
  cases block with
  | none => exact leaves_throw hP _
  | some b =>
    have hdir : Leaves P (Action.dir v : Traced E Dir) :=
      leaves_bind hP (leaves_look hP) fun m => leaves_lift hP (m.store.dir v)
    exact leaves_bind hP hdir fun d =>
      leaves_bind hP (leaves_forM hP (hblock b rfl) d.names) fun _ => leaves_pure hP v

lemma balances_method (hblock : BalancedBlock block) (v : Value) (args : List Value) {f : Method}
    (hf : f ≠ .entries) :
    Balances (Action.method v args (block.map Block.told) f : Traced E Value) := by
  have hupdate (g : Dir → Dir) (w : Value) :
      Balances (do Action.updateDir v g; return w : Traced E Value) :=
    balances_bind (balances_updateDir v g) fun _ => balances_pure w
  cases f with
  | close | rewind => exact balances_lift_bind _ fun _ => hupdate _ _
  | seek | setPos => exact balances_lift_bind _ fun _ => balances_lift_bind _ fun _ => hupdate _ _
  | entries => exact absurd rfl hf
  | path =>
    exact balances_lift_bind _ fun _ => balances_bind (balances_dir v) fun d =>
      balances_lift_bind _ fun _ => balances_pure _
  | tell =>
    exact balances_lift_bind _ fun _ => balances_bind (balances_dir v) fun d => balances_pure _
  | read =>
    exact balances_lift_bind _ fun _ => balances_bind (balances_dir v) fun d =>
      balances_lift_bind _ fun _ => hupdate _ _
  | each =>
    exact leaves_each balanced_composes (fun b hb => balances_told (hblock b hb)) v args

lemma balances_chdir (hblock : BalancedBlock block) (path : String) :
    Balances (Action.chdir path (block.map Block.told) : Traced E Value) := by
  refine balances_bind balances_look fun m => ?_
  dsimp only
  split
  · cases block with
    | none => exact balances_bind (balances_perform trivial) fun _ => balances_pure _
    | some b => exact balances_within _ (balances_told (hblock b rfl) _)
  · exact balances_throw _

lemma balances_rmdir (path : String) : Balances (Action.rmdir path : Traced E Value) := by
  refine balances_bind balances_look fun m => ?_
  dsimp only
  split
  · refine balances_bind (balances_perform trivial) fun _ => ?_
    split
    · exact balances_pure _
    · exact balances_throw _
  · exact balances_throw _

lemma balances_mkdir (path : String) : Balances (Action.mkdir path : Traced E Value) := by
  refine balances_bind balances_look fun m => ?_
  dsimp only
  split
  · exact balances_throw _
  · refine balances_bind (balances_perform trivial) fun _ => ?_
    split <;> exact balances_pure _

/-! ### Code that makes an object -/

/-- The code makes one object when it succeeds, and does nothing else. -/
def Makes (x : Traced E Value) : Prop :=
  ∀ m, (∃ e, x m = (.error e, .nil)) ∨ ∃ v o, x m = (.ok v, .event (.alloc o) .nil)

lemma makes_throw (e : Error) : Makes (throw e : Traced E Value) := fun _ => .inl ⟨e, rfl⟩

lemma makes_newStrings (names : List String) : Makes (Action.newStrings names : Traced E Value) :=
  fun _ => .inr ⟨_, _, rfl⟩

lemma makes_lift_bind (x : Except Error α) {f : α → Traced E Value} (hf : ∀ a, Makes (f a)) :
    Makes (liftM x >>= f) := by
  cases x with
  | error e => exact makes_throw e
  | ok a => exact hf a

lemma makes_look_bind {f : Machine E → Traced E Value} (hf : ∀ m, Makes (f m)) :
    Makes (look >>= f) :=
  fun m => hf m m

lemma makes_dir_bind (v : Value) {f : Dir → Traced E Value} (hf : ∀ d, Makes (f d)) :
    Makes (Action.dir v >>= f) := by
  intro m
  have hdir : (Action.dir v >>= f) m = ((liftM (m.store.dir v) >>= f : Traced E Value)) m := by
    rw [apply_bind, apply_bind]
    rfl
  rw [hdir]
  exact makes_lift_bind _ hf m

lemma makes_openDir (path : String) : Makes (Action.openDir path : Traced E Value) :=
  makes_look_bind fun _ => makes_lift_bind _ fun _ _ => .inr ⟨_, _, rfl⟩

lemma makes_bind_pure {x : Traced E Value} (hx : Makes x) : Makes (x >>= pure) := by
  intro m
  obtain ⟨e, hrun⟩ | ⟨v, o, hrun⟩ := hx m
  · exact .inl ⟨e, apply_bind_of_error hrun _⟩
  · exact .inr ⟨v, o, apply_bind_of_ok hrun _⟩

lemma balances_part_of_makes {label : Label E} {x : Traced E Value} (hx : Makes x)
    (hlabel : ∀ outcome t, label.gain outcome t = if outcome.isOk then 1 else 0) :
    Balances (part label x) := by
  intro m hm _
  rw [apply_part]
  obtain ⟨e, hrun⟩ | ⟨v, o, hrun⟩ := hx m <;> rw [hrun]
  · -- what fails has made nothing
    simp [Trace.gain, hlabel, Except.isOk, Except.toBool]
  · have hsize := Machine.size_after_alloc hm o
    simp [Trace.gain, hlabel, Except.isOk, Except.toBool, hsize]

/-! ### Opening for a block -/

lemma balances_part_lift_bind {label : Label E} (x : Except Error α) {f : α → Traced E Value}
    (hlabel : ∀ e, label.gain (.error e) .nil = 0) (hf : ∀ a, Balances (part label (f a))) :
    Balances (part label (liftM x >>= f)) := by
  cases x with
  | error e =>
    intro m _ _
    change (m.store.size : ℤ) = m.store.size + (label.gain (.error e) .nil + 0 + 0)
    rw [hlabel]
    simp
  | ok a => exact hf a

lemma apply_openDir_of_not_dir {path : String}
    (hdir : ¬ FileSystem.isDir m.files (m.resolve path)) :
    (Action.openDir path : Traced E Value) m = (.error (.notADirectory path), .nil) := by
  have hopen : Dir.openAt m.files m.currentDir path = .error (.notADirectory path) := if_neg hdir
  rw [Action.openDir, apply_bind_of_ok (a := m) (t := .nil) rfl]
  dsimp only [andThen, Trace.events_nil, Machine.afterAll_nil]
  rw [hopen]
  rfl

variable {path : String} {given : Bool} {args : List Value}

lemma apply_openDir_bind (hdir : FileSystem.isDir m.files (m.resolve path))
    (f : Value → Traced E α) :
    (Action.openDir path >>= f) m = ((f (.dir m.store.next) (m.opened path)).1,
      .event (.alloc (.dir (.ofListing path (Dir.listing m.files (m.resolve path)))))
        (f (.dir m.store.next) (m.opened path)).2) := by
  rw [apply_bind_of_ok (apply_openDir hdir)]
  rfl

/-- What is left to do once a directory is open for a block. -/
def lend (b : Block (Traced E)) (v : Value) : Traced E Value := do
  let outcome ← Action.attempt (b [v])
  Action.updateDir v Dir.close
  match outcome with
  | .ok _ => return .nil
  | .error e => throw e

lemma openDirFor_some (b : Block (Traced E)) :
    Action.openDirFor path (some b) = Action.openDir path >>= lend b := rfl

lemma balances_lend (hb : ∀ args, Balances (b args)) (v : Value) : Balances (lend b.told v) := by
  refine balances_bind (balances_attempt (balances_told hb _)) fun outcome =>
    balances_bind (balances_updateDir v _) fun _ => ?_
  cases outcome with
  | ok w => exact balances_pure _
  | error e => exact balances_throw e

lemma isEmpty_invocations_lend (b : Block (Traced E)) (v : Value) (m : Machine E) :
    (lend b.told v m).2.invocations.isEmpty = false := by
  rw [lend, apply_bind_of_ok (apply_attempt _ m), andThen, Trace.invocations_append]
  rfl

lemma balances_openDirFor (hb : ∀ args, Balances (b args)) :
    Balances (part (.call (.function .openDir args) true)
      (Action.openDirFor path (some b.told))) := by
  intro m hm hkeeps
  rw [apply_part, openDirFor_some] at hkeeps ⊢
  by_cases hdir : FileSystem.isDir m.files (m.resolve path)
  · rw [apply_openDir_bind hdir] at hkeeps ⊢
    have hsize := balances_lend hb _ _ (Machine.consistent_opened hm path) hkeeps.2.1
    -- once the directory is there the block is run, so that the entry is 1 in any case
    have hrun := isEmpty_invocations_lend b (.dir m.store.next) (m.opened path)
    rw [Machine.size_opened hm] at hsize
    generalize (lend b.told (.dir m.store.next) (m.opened path)).2 = t at *
    simp only [Trace.events_part, Trace.events_event, Trace.events_nil, List.append_nil,
      Machine.afterAll_cons, Trace.gain, Label.gain, Trace.invocations, hrun]
    refine hsize.trans ?_
    push_cast
    ring
  · rw [apply_bind_of_error (apply_openDir_of_not_dir hdir)]
    simp [Trace.gain, Label.gain, Trace.invocations]

/-! ### Opening for a visit -/

lemma events_each (v : Value) (block : Option (Block (Traced E))) (m : Machine E) :
    ((Action.method v [] (block.map Block.told) .each : Traced E Value) m).2.events =
      ((Action.method v [] (block.map Block.told) .each : Traced E Value) m).2.inBlocks := by
  -- all that is done by a visit is done inside of its invocations
  have hcomposes : Trace.Composes (E := E) fun _ t => t.events = t.inBlocks :=
    ⟨fun _ => rfl, fun ht hu => by rw [Trace.events_append, Trace.inBlocks_append, ht, hu]⟩
  have htold : ∀ b ∈ block, ∀ args,
      Leaves (fun _ t => t.events = t.inBlocks) (Block.told b args : Traced E Value) :=
    fun b _ args m => rfl
  exact leaves_each hcomposes htold v [] m

/-- What `foreach` does once its directory is open. -/
def visit (block : Option (Block (Traced E))) (v : Value) : Traced E Value := do
  let outcome ← Action.attempt (Action.method v [] block .each)
  let _ ← Action.release v
  match outcome with
  | .ok _ => return .nil
  | .error e => throw e

lemma foreach_eq (block : Option (Block (Traced E))) :
    Action.foreach path block = Action.openDir path >>= visit block := rfl

lemma trace_visit (block : Option (Block (Traced E))) (v : Value) (m : Machine E) :
    (visit block v m).2 = ((Action.method v [] block .each : Traced E Value) m).2 ++
      .event (.release v) .nil := by
  rw [visit, apply_bind_of_ok (apply_attempt _ _)]
  dsimp only [andThen]
  congr 1
  rcases ((Action.method v [] block .each : Traced E Value) m).1 with e | w <;> rfl

lemma size_after_visit {block : Option (Block (Traced E))} (hblock : BalancedBlock block) {r : Ref}
    {d : Dir} (hm : m.store.Consistent) (hd : m.store.get? r = some (.dir d))
    (hkeeps : (visit (block.map Block.told) (.dir r) m).2.KeepsForeach m)
    (hslot : ¬ Released (visit (block.map Block.told) (.dir r) m).2.inBlocks r) :
    ((m.afterAll (visit (block.map Block.told) (.dir r) m).2.events).store.size : ℤ) =
      m.store.size + (visit (block.map Block.told) (.dir r) m).2.gain - 1 := by
  rw [trace_visit] at hkeeps hslot ⊢
  have hbalanced := leaves_each balanced_composes (fun b hb => balances_told (hblock b hb))
    (.dir r) [] m hm (Trace.keepsForeach_append.mp hkeeps).1
  have hevents := events_each (.dir r) block m
  generalize ((Action.method (.dir r) [] (block.map Block.told) .each : Traced E Value) m).2 = t
    at *
  -- nothing outside of the block has touched the slot, and the block has left it alone
  have hlive : (m.afterAll t.events).store.Live (.dir r) := by
    refine Machine.live_of_not_released hm rfl (Store.live_dir_iff.mpr ⟨d, hd⟩) ?_
    rw [hevents]
    rwa [Trace.inBlocks_append, Trace.inBlocks, Trace.inBlocks, List.append_nil] at hslot
  obtain ⟨d', hd'⟩ := Store.live_dir_iff.mp hlive
  have hreleased : ((m.afterAll t.events).store.release (.dir r)).1 = true := by
    simp [Store.release, Value.ref?, hd']
  calc ((m.afterAll (t ++ .event (.release (.dir r)) .nil).events).store.size : ℤ)
      = ((m.afterAll t.events).after (.release (.dir r))).store.size := by
        rw [Trace.events_append, Machine.afterAll_append]
        rfl
    _ = (m.afterAll t.events).store.size + -1 := by
        rw [Machine.size_after_release (Machine.consistent_afterAll hm _), hreleased, if_pos rfl]
    _ = m.store.size + t.gain + -1 := by rw [hbalanced]
    _ = m.store.size + (t ++ .event (.release (.dir r)) .nil).gain - 1 := by
        simp only [Trace.gain_append, Trace.gain, add_zero, sub_eq_add_neg]

lemma balances_foreach {block : Option (Block (Traced E))} (hblock : BalancedBlock block) :
    Balances (part (.call (.function .foreach args) given)
      (Action.foreach path (block.map Block.told))) := by
  intro m hm hkeeps
  rw [apply_part, foreach_eq] at hkeeps ⊢
  by_cases hdir : FileSystem.isDir m.files (m.resolve path)
  · -- one more for the directory, and one less when its slot is given back
    rw [apply_openDir_bind hdir] at hkeeps ⊢
    have hsize := size_after_visit hblock (Machine.consistent_opened hm path)
      (Machine.get?_opened hm path) hkeeps.2.1 (hkeeps.1 rfl)
    rw [Machine.size_opened hm] at hsize
    generalize (visit (block.map Block.told) (.dir m.store.next) (m.opened path)).2 = t at *
    simp only [Trace.events_part, Trace.events_event, Trace.events_nil, List.append_nil,
      Machine.afterAll_cons, Trace.gain, Label.gain]
    refine hsize.trans ?_
    push_cast
    ring
  · rw [apply_bind_of_error (apply_openDir_of_not_dir hdir)]
    simp [Trace.gain, Label.gain]

/-! ### Calls -/

lemma balances_glob {block : Option (Block (Traced E))} (hblock : BalancedBlock block) :
    Balances (part (.call (.function .glob args) block.isSome)
      (Action.standard args (block.map Block.told) .glob)) := by
  cases block with
  | none =>
    refine balances_part_of_makes (makes_lift_bind _ fun pattern => makes_look_bind fun m => ?_)
      fun _ _ => rfl
    rcases FileSystem.glob m.files m.currentDir pattern with e | paths
    · exact makes_throw _
    · exact makes_newStrings paths
  | some b =>
    refine balances_part (balances_lift_bind _ fun pattern =>
      balances_bind balances_look fun m => ?_) fun _ _ => rfl
    rcases FileSystem.glob m.files m.currentDir pattern with e | paths
    · exact balances_throw _
    · exact balances_bind (leaves_forM balanced_composes (balances_told (hblock b rfl)) paths)
        fun _ => balances_pure _

lemma balances_function {block : Option (Block (Traced E))} (hblock : BalancedBlock block)
    (f : DirFunction) :
    Balances (part (.call (.function f args) block.isSome)
      (Action.standard args (block.map Block.told) f)) := by
  cases f with
  | newDir =>
    exact balances_part_of_makes (makes_lift_bind _ fun path => makes_openDir path) fun _ _ => rfl
  | openDir =>
    cases block with
    | none =>
      exact balances_part_of_makes (makes_lift_bind _ fun path =>
        makes_bind_pure (makes_openDir path)) fun _ _ => rfl
    | some b =>
      exact balances_part_lift_bind _ (fun _ => rfl) fun path => balances_openDirFor (hblock b rfl)
  | entries =>
    exact balances_part_of_makes (makes_lift_bind _ fun path => makes_look_bind fun m =>
      makes_lift_bind _ fun names => makes_newStrings names) fun _ _ => rfl
  | foreach =>
    exact balances_part_lift_bind _ (fun _ => rfl) fun path => balances_foreach hblock
  | glob => exact balances_glob hblock
  | chdir =>
    refine balances_part ?_ fun _ _ => rfl
    rcases args with _ | ⟨v, _ | ⟨w, rest⟩⟩
    · exact balances_bind balances_look fun m => balances_lift_bind _ fun path =>
        balances_chdir hblock path
    · exact balances_lift_bind _ fun path => balances_chdir hblock path
    · exact balances_throw _
  | chroot => exact balances_part (balances_lift_bind _ fun _ => balances_throw _) fun _ _ => rfl
  | getwd =>
    exact balances_part (balances_lift_bind _ fun _ => balances_bind balances_look fun m =>
      balances_pure _) fun _ _ => rfl
  | mkdir =>
    refine balances_part ?_ fun _ _ => rfl
    rcases args with _ | ⟨v, _ | ⟨w, _ | ⟨u, rest⟩⟩⟩
    · exact balances_throw _
    · exact balances_lift_bind _ fun path => balances_mkdir path
    · exact balances_lift_bind _ fun path => balances_mkdir path
    · exact balances_throw _
  | rmdir =>
    exact balances_part (balances_lift_bind _ fun path => balances_rmdir path) fun _ _ => rfl

lemma balances_callMethod {block : Option (Block (Traced E))} (hblock : BalancedBlock block)
    (v : Value) (name : String) (args : List Value) :
    Balances (part (.call (.method v name args) given)
      (Action.callMethod v name args (block.map Block.told))) := by
  -- of the methods only `entries` makes an object
  by_cases hname : Method.ofName? name = some .entries
  · refine balances_part_of_makes ?_ fun outcome _ => by simp [Label.gain, hname]
    unfold Action.callMethod
    split
    · next hf =>
      obtain rfl := Option.some.inj (hname.symm.trans hf)
      exact makes_lift_bind _ fun _ => makes_dir_bind _ fun d => makes_newStrings d.names
    · exact makes_throw _
  · refine balances_part ?_ fun outcome _ => by simp [Label.gain, hname]
    unfold Action.callMethod
    split
    · next hf => exact balances_method hblock _ args fun h => hname (h ▸ hf)
    · exact balances_throw _

lemma gain_materialize (c : Constant) (m : Machine E) :
    ((Action.materialize c : Traced E Value) m).2.gain = 0 := by
  have hcomposes : Trace.Composes (E := E) fun _ t => t.gain = 0 :=
    ⟨fun _ => rfl, fun ht hu => by rw [Trace.gain_append, ht, hu, add_zero]⟩
  have hperform (e : Event E) : Leaves (fun _ t => t.gain = 0) (perform e : Traced E Unit) :=
    fun m => rfl
  have huniform : Uniform (fun _ => True) fun α (x : Traced E α) (_ : Traced E α) =>
      Leaves (fun _ t => t.gain = 0) x :=
    uniform_leaves_of_perform hcomposes fun e _ => hperform e
  exact huniform.materialize (fun e _ _ => hperform e) c m

lemma balances_materialize (c : Constant) :
    Balances (part (.call (.materialize c) given) (Action.materialize c) : Traced E Value) := by
  intro m hm _
  have hact : (Action.materialize c : Traced E Value).act = Action.materialize c :=
    uniform_act.materialize (fun _ _ _ => rfl) c
  have hrun := Machine.run_materialize c m
  rw [← hact, run_act] at hrun
  have hstore : (m.afterAll ((Action.materialize c : Traced E Value) m).2.events).store =
      (m.store.materialize c).2 :=
    congrArg (fun ended => ended.2.store) hrun
  rw [apply_part]
  simp only [Trace.events_part, Trace.events_nil, List.append_nil, Trace.gain, Label.gain,
    gain_materialize, hstore, (Store.materialize_laid c m.store hm).1.size_eq]
  push_cast
  ring

lemma balances_release (v : Value) :
    Balances (part (.call (.release v) given)
      (do return .bool (← Action.release v)) : Traced E Value) := by
  intro m hm _
  have hgain (b : Bool) (t : Trace E) :
      (Label.call (.release v) given).gain (.ok (.bool b)) t = if b then -1 else 0 := by
    cases b <;> rfl
  change ((m.after (.release v)).store.size : ℤ) =
    m.store.size + (Label.gain (.ok (.bool (m.store.release v).1)) _ _ + 0 + 0)
  rw [Machine.size_after_release hm v, hgain, add_zero, add_zero]

/-- **A call adds what its account says.** -/
lemma balances_call {block : Option (Block (Traced E))} (hblock : BalancedBlock block)
    (c : Call E) :
    Balances (part (.call c block.isSome) (c.code (block.map Block.told))) := by
  have hdo {e : Event E} (he : e.Steady) : Balances (do perform e; return .nil : Traced E Value) :=
    balances_bind (balances_perform he) fun _ => balances_pure _
  cases c with
  | function f args => exact balances_function hblock f
  | method v name args => exact balances_callMethod hblock v name args
  | newList items => exact balances_part_of_makes (fun m => .inr ⟨_, _, rfl⟩) fun _ _ => rfl
  | materialize c => exact balances_materialize c
  | openDir path => exact balances_part_of_makes (makes_openDir path) fun _ _ => rfl
  | release v => exact balances_release v
  | within dir =>
    refine balances_part (balances_within dir ?_) fun _ _ => rfl
    cases block with
    | none => exact balances_pure _
    | some b => exact balances_told (hblock b rfl) []
  | files | environment | data => exact balances_part (hdo trivial) fun _ _ => rfl

end Traced

namespace Machine

open Program

/-- **No object is lost or forgotten.** Let any program run in which no block of `foreach` releases
the directory that is being visited. It leaves as many objects as there were, and those that the
account of its calls adds to them. -/
theorem size_after_program (hm : m.Reachable) (p : Program E)
    (hkeeps : ((p.run : Traced E Value) m).2.KeepsForeach m) :
    let traced := (p.run : Traced E Value) m
    m.run p.run = (traced.1, m.afterAll traced.2.events) ∧
      ((m.run p.run).2.store.size : ℤ) = m.store.size + traced.2.gain := by
  intro traced
  have hrun : m.run p.run = (traced.1, m.afterAll traced.2.events) := by
    rw [← act_run p, Traced.run_act]
  have hrespected : Respected (E := E) fun _ => Balanced :=
    ⟨fun _ => balanced_composes, fun _ c _ hblock => Traced.balances_call hblock c⟩
  refine ⟨hrun, ?_⟩
  rw [hrun]
  exact leaves_run hrespected p none m hm.consistent hkeeps

/-- A visit whose block keeps a list and then fails, as it visits again without a block; a directory
that is opened for a block which makes a constant and releases the directory; and a release of
nothing. -/
def comesAndGoes : Program (Script.scene Catalog) :=
  .call (.function .foreach [.str "/"])
    (some fun args =>
      .call (.newList args) none fun _ =>
      .call (.function .foreach [.str "/"]) none .done) fun _ =>
  .call (.function .openDir [.str "/"])
    (some fun args =>
      .call (.materialize (.array [.array [], .symbol "a"])) none fun _ =>
      .call (.release (args.headD .nil)) none .done) fun _ =>
  .call (.release (.list ⟨7⟩)) none .done

/-- What the program leaves behind. -/
def cameAndWent : Except Error Value × Trace (Script.scene Catalog) :=
  (comesAndGoes.run : Traced (Script.scene Catalog) Value) twoNames

/-- The list and the constant stay. -/
theorem size_after_program_comes_and_goes :
    twoNames.Reachable ∧ cameAndWent.2.KeepsForeach twoNames ∧ cameAndWent.2.gain = 3 ∧
      ((twoNames.run comesAndGoes.run).2.store.size : ℤ) = 3 := by
  have hm : twoNames.Reachable := ⟨_, _, _, _, [], rfl⟩
  have hkeeps : cameAndWent.2.KeepsForeach twoNames := by decide +kernel
  have hgain : cameAndWent.2.gain = 3 := by decide +kernel
  refine ⟨hm, hkeeps, hgain, ?_⟩
  rw [(size_after_program hm comesAndGoes hkeeps).2]
  exact hgain

end Machine

end Dirlang
