import Mathlib
import Dirlang.Proofs.Machine.Observed
import Dirlang.Proofs.Machine.Runs
import Dirlang.Proofs.Store.Alike

/-!
Calls that fail before they have run their block.

They leave no trace. Most of them check what they need before they change anything. Two change
something first: `foreach` has its directory open by the time it misses its block, and lets it go;
and a directory that cannot be removed was given to the file system to remove, which is trusted to
change nothing when it refuses.
-/

namespace Dirlang

variable {E : Embedding} {m : Machine E} {α β : Type}

/-- A file system that refuses to remove a directory stays as it is. -/
def FileSystem.RefusesCleanly (F : Type) [FileSystem F] : Prop :=
  ∀ (files : F) (path e : String), (removeDir files path).1 = .error e →
    (removeDir files path).2 = files

namespace Machine

/-- Nothing tells the second machine from the first: all of it is the same, but for a store that
is not to be told from the one before, and for the files if the file system is not to be trusted. -/
structure Alike (m m' : Machine E) : Prop where
  store : m.store.Alike m'.store
  files : FileSystem.RefusesCleanly E.Files → m'.files = m.files
  rest : m' = { m with store := m'.store, files := m'.files }

lemma Alike.refl (m : Machine E) : m.Alike m := ⟨.refl _, fun _ => rfl, rfl⟩

end Machine

/-! ### Code that checks before it changes anything -/

namespace Observed

/-- The code changes nothing and runs no block. -/
def Still (x : Observed E α) : Prop := ∀ m, (x m).1.2 = m ∧ (x m).2 = []

/-- The code runs the block. -/
def Asks (m : Machine E) (x : Observed E α) : Prop := (x m).2 ≠ []

/-- The code does not fail before it has run the block. -/
def Safe (x : Observed E α) : Prop := ∀ m e, (x m).1.1 = .error e → (x m).2 ≠ []

/-- The code changes nothing when it fails before it has run the block. -/
def Careful (x : Observed E α) : Prop :=
  ∀ m e, (x m).1.1 = .error e → (x m).2 = [] → (x m).1.2 = m

lemma still_lift (x : Except Error α) : (liftM x : Observed E α).Still := by
  intro m
  rw [apply_lift]
  exact ⟨rfl, rfl⟩

lemma still_look : (look : Observed E (Machine E)).Still := fun _ => ⟨rfl, rfl⟩

lemma still_dir (v : Value) : (Action.dir v : Observed E Dir).Still := fun m =>
  still_lift (m.store.dir v) m

lemma safe_pure (a : α) : (pure a : Observed E α).Safe := nofun

lemma safe_of_asks {x : Observed E α} (h : ∀ m, Asks m x) : x.Safe := fun m _ _ => h m

lemma asks_bind {x : Observed E α} (hx : Asks m x) (f : α → Observed E β) : Asks m (x >>= f) := by
  unfold Asks at *
  rw [apply_bind]
  rcases hm : x m with ⟨⟨e | a, m'⟩, calls⟩ <;> rw [hm] at hx
  · exact hx
  · exact List.append_ne_nil_of_left_ne_nil hx _

lemma safe_bind {x : Observed E α} {f : α → Observed E β} (hx : x.Safe)
    (hf : ∀ a, (f a).Safe) : (x >>= f).Safe := by
  intro m e he
  rw [apply_bind] at he ⊢
  rcases hm : x m with ⟨⟨e' | a, m'⟩, calls⟩ <;> rw [hm] at he
  · have := hx m e'
    rw [hm] at this
    exact this rfl
  · exact List.append_ne_nil_of_right_ne_nil _ (hf a m' e he)

lemma careful_of_safe {x : Observed E α} (h : x.Safe) : x.Careful :=
  fun m e he hcalls => absurd hcalls (h m e he)

lemma careful_throw (e : Error) : (throw e : Observed E α).Careful := fun _ _ _ _ => rfl

lemma careful_bind_of_still {x : Observed E α} {f : α → Observed E β} (hx : x.Still)
    (hf : ∀ a, (f a).Careful) : (x >>= f).Careful := by
  intro m e he hcalls
  obtain ⟨hsame, hsilent⟩ := hx m
  rw [apply_bind] at he hcalls ⊢
  rcases hm : x m with ⟨⟨e' | a, m'⟩, calls⟩ <;> rw [hm] at he hcalls hsame hsilent
  · exact hsame
  · obtain rfl : m' = m := hsame
    obtain rfl : calls = [] := hsilent
    exact hf a m' e he hcalls

lemma careful_bind_of_safe {x : Observed E α} {f : α → Observed E β} (hx : x.Careful)
    (hf : ∀ a, (f a).Safe) : (x >>= f).Careful := by
  intro m e he hcalls
  have hfirst := hx m
  rw [apply_bind] at he hcalls ⊢
  rcases hm : x m with ⟨⟨e' | a, m'⟩, calls⟩ <;> rw [hm] at he hcalls hfirst
  · exact hfirst e' rfl hcalls
  · exact absurd (List.append_eq_nil_iff.mp hcalls).2 (hf a m' e he)

lemma careful_lift_bind (x : Except Error α) {f : α → Observed E β} (hf : ∀ a, (f a).Careful) :
    (liftM x >>= f).Careful :=
  careful_bind_of_still (still_lift x) hf

/-! ### Blocks -/

variable {b : Block (Action E)}

lemma asks_observed (b : Block (Action E)) (args : List Value) (m : Machine E) :
    Asks m (b.observed args) :=
  List.cons_ne_nil _ _

lemma asks_attempt {x : Observed E α} (hx : Asks m x) : Asks m (Action.attempt x) := by
  unfold Asks at *
  rw [apply_attempt]
  exact hx

lemma asks_discard (b : Block (Action E)) (args : List Value) (m : Machine E) :
    Asks m (discard (b.observed args) : Observed E Unit) :=
  asks_bind (f := fun _ => pure ()) (asks_observed b args m)

lemma safe_forM (b : Block (Action E)) (names : List String) :
    (forM names fun name => discard (b.observed [.str name]) : Observed E Unit).Safe := by
  induction names with
  | nil => exact safe_pure ()
  | cons name names ih =>
    rw [List.forM_cons]
    exact safe_bind (safe_of_asks (asks_discard b _)) fun _ => ih

lemma asks_within (dir : String) {x : Observed E α} (hx : ∀ m, Asks m x) (m : Machine E) :
    Asks m (Action.within dir x) := by
  have hbody : Asks (m.after (.goTo dir)) (Action.attempt x >>= fun outcome =>
      perform (.goTo m.currentDir) >>= fun _ => (liftM outcome : Observed E α)) :=
    asks_bind (asks_attempt (hx _)) _
  unfold Asks at *
  rw [Action.within, apply_look_bind, apply_perform_bind]
  exact hbody

/-! ### Methods -/

variable {block : Option (Block (Action E))}

lemma safe_perform_bind (e : Event E) (a : α) :
    (do perform e; return a : Observed E α).Safe := nofun

lemma careful_updateDir_bind (v : Value) (f : Dir → Dir) (w : Value) :
    (do Action.updateDir v f; return w : Observed E Value).Careful := by
  have hupdate : (Action.updateDir v f : Observed E Unit).Careful :=
    careful_bind_of_still (still_dir v) fun _ => careful_of_safe nofun
  exact careful_bind_of_safe hupdate fun _ => safe_pure w

lemma safe_newStrings (names : List String) : (Action.newStrings names : Observed E Value).Safe :=
  nofun

lemma careful_method (v : Value) (args : List Value) (f : Method) :
    (Action.method v args (block.map Block.observed) f : Observed E Value).Careful := by
  cases f with
  | close | rewind => exact careful_lift_bind _ fun _ => careful_updateDir_bind _ _ _
  | seek | setPos =>
    exact careful_lift_bind _ fun _ => careful_lift_bind _ fun _ => careful_updateDir_bind _ _ _
  | entries =>
    refine careful_lift_bind _ fun _ => careful_bind_of_still (still_dir v) fun d => ?_
    exact careful_of_safe (safe_newStrings d.names)
  | path =>
    refine careful_lift_bind _ fun _ => careful_bind_of_still (still_dir v) fun d => ?_
    exact careful_lift_bind _ fun _ => careful_of_safe (safe_pure _)
  | tell =>
    refine careful_lift_bind _ fun _ => careful_bind_of_still (still_dir v) fun d => ?_
    exact careful_of_safe (safe_pure _)
  | read =>
    refine careful_lift_bind _ fun _ => careful_bind_of_still (still_dir v) fun d => ?_
    exact careful_lift_bind _ fun _ => careful_updateDir_bind _ _ _
  | each =>
    refine careful_lift_bind _ fun _ => ?_
    cases block with
    | none => exact careful_throw _
    | some b =>
      refine careful_bind_of_still (still_dir v) fun d => careful_of_safe ?_
      exact safe_bind (safe_forM b d.names) fun _ => safe_pure v

lemma careful_callMethod (v : Value) (name : String) (args : List Value) :
    (Action.callMethod v name args (block.map Block.observed) : Observed E Value).Careful := by
  unfold Action.callMethod
  split
  · exact careful_method _ _ _
  · exact careful_throw _

/-! ### Functions -/

lemma careful_openDir (path : String) : (Action.openDir path : Observed E Value).Careful :=
  careful_bind_of_still still_look fun _ => careful_lift_bind _ fun _ => careful_of_safe nofun

lemma careful_openDirFor (path : String) :
    (Action.openDirFor path (block.map Block.observed) : Observed E Value).Careful := by
  refine careful_bind_of_safe (careful_openDir path) fun v => ?_
  cases block with
  | none => exact safe_pure v
  | some b => exact safe_of_asks fun m => asks_bind (asks_attempt (asks_observed b _ m)) _

lemma careful_glob (pattern : String) :
    (Action.glob pattern (block.map Block.observed) : Observed E Value).Careful := by
  refine careful_bind_of_still still_look fun m => ?_
  rcases FileSystem.glob m.files m.currentDir pattern with e | paths
  · exact careful_throw _
  · cases block with
    | none => exact careful_of_safe (safe_newStrings paths)
    | some b => exact careful_of_safe (safe_bind (safe_forM b paths) fun _ => safe_pure _)

lemma careful_chdir (path : String) :
    (Action.chdir path (block.map Block.observed) : Observed E Value).Careful := by
  refine careful_bind_of_still still_look fun m => ?_
  dsimp only
  split
  · cases block with
    | none => exact careful_of_safe (safe_perform_bind _ _)
    | some b => exact careful_of_safe (safe_of_asks (asks_within _ (asks_observed b _)))
  · exact careful_throw _

lemma careful_mkdir (path : String) : (Action.mkdir path : Observed E Value).Careful := by
  refine careful_bind_of_still still_look fun m => ?_
  dsimp only
  split
  · exact careful_throw _
  · refine careful_of_safe (safe_bind (x := perform _) nofun fun _ => ?_)
    split <;> exact safe_pure _

/-- All functions are careful but the two that have changed something by then. -/
lemma careful_standard {f : DirFunction} (hforeach : f ≠ .foreach) (hrmdir : f ≠ .rmdir)
    (args : List Value) :
    (Action.standard args (block.map Block.observed) f : Observed E Value).Careful := by
  cases f with
  | newDir => exact careful_lift_bind _ careful_openDir
  | openDir => exact careful_lift_bind _ careful_openDirFor
  | entries =>
    refine careful_lift_bind _ fun path => careful_bind_of_still still_look fun m => ?_
    exact careful_lift_bind _ fun names => careful_of_safe (safe_newStrings names)
  | foreach => exact absurd rfl hforeach
  | glob => exact careful_lift_bind _ careful_glob
  | chdir =>
    rcases args with _ | ⟨v, _ | ⟨w, rest⟩⟩
    · exact careful_bind_of_still still_look fun m => careful_lift_bind _ careful_chdir
    · exact careful_lift_bind _ careful_chdir
    · exact careful_throw _
  | chroot => exact careful_lift_bind _ fun _ => careful_throw _
  | getwd =>
    refine careful_lift_bind _ fun _ => careful_bind_of_still still_look fun m => ?_
    exact careful_of_safe (safe_pure _)
  | mkdir =>
    rcases args with _ | ⟨v, _ | ⟨w, _ | ⟨u, rest⟩⟩⟩
    · exact careful_throw _
    · exact careful_lift_bind _ careful_mkdir
    · exact careful_lift_bind _ careful_mkdir
    · exact careful_throw _
  | rmdir => exact absurd rfl hrmdir

/-! ### Code that gives back what it took -/

/-- Failing before it has run the block, the code leaves a machine that nothing tells from the one
it started on. -/
def Traceless (x : Observed E α) : Prop :=
  ∀ m, m.store.Consistent → ∀ e, (x m).1.1 = .error e → (x m).2 = [] → m.Alike (x m).1.2

lemma traceless_of_careful {x : Observed E α} (h : x.Careful) : x.Traceless := by
  intro m _ e he hcalls
  rw [h m e he hcalls]
  exact .refl m

lemma traceless_lift_bind (x : Except Error α) {f : α → Observed E β}
    (hf : ∀ a, (f a).Traceless) : (liftM x >>= f).Traceless := by
  cases x with
  | error e => exact traceless_of_careful (careful_throw e)
  | ok a => exact hf a

lemma asks_each (h : m.store.Consistent) (path : String) (b : Block (Action E)) :
    Asks (m.opened path)
      (Action.method (.dir m.store.next) [] (some b.observed) .each : Observed E Value) := by
  have hget : (m.opened path).store.get? m.store.next =
      some (.dir (.ofListing path (Dir.listing m.files (m.resolve path)))) :=
    Store.get?_alloc_next h _
  have hdir : (m.opened path).store.dir (.dir m.store.next) =
      .ok (.ofListing path (Dir.listing m.files (m.resolve path))) := by
    simp only [Store.dir, hget]
  have hlook : (Action.dir (.dir m.store.next) : Observed E Dir) (m.opened path) =
      ((.ok (.ofListing path (Dir.listing m.files (m.resolve path))), m.opened path), []) := by
    rw [← hdir]
    exact apply_lift _ _
  change Asks (m.opened path) (Action.dir (.dir m.store.next) >>= fun d =>
    Action.eachName d b.observed >>= fun _ => (pure (.dir m.store.next) : Observed E Value))
  unfold Asks
  rw [apply_bind_of_ok hlook]
  have hnames : Asks (m.opened path) (Action.eachName
      (.ofListing path (Dir.listing m.files (m.resolve path))) b.observed : Observed E Unit) :=
    asks_bind (asks_discard b [.str "."] _) _
  exact asks_bind hnames _

lemma traceless_foreach (path : String) :
    (Action.foreach path (block.map Block.observed) : Observed E Value).Traceless := by
  intro m h e he hcalls
  by_cases hdir : FileSystem.isDir m.files (m.resolve path)
  · rw [Action.foreach, apply_bind_of_ok (apply_openDir_of_dir hdir)] at he hcalls ⊢
    cases block with
    | none => exact ⟨Store.alike_free_alloc h _, fun _ => rfl, rfl⟩
    | some b =>
      -- the first name is `.`, so the block runs before anything can fail
      exact absurd hcalls (asks_bind (asks_attempt (asks_each h path b)) _)
  · rw [Action.foreach, apply_bind_of_error (apply_openDir_of_not_dir hdir)]
    exact .refl m

lemma traceless_rmdir (path : String) : (Action.rmdir path : Observed E Value).Traceless := by
  intro m h e he hcalls
  rw [Action.rmdir, apply_look_bind] at he hcalls ⊢
  dsimp only at he hcalls ⊢
  split at he
  · next hdir =>
    rw [if_pos hdir, apply_perform_bind] at *
    rcases hremoved : (FileSystem.removeDir m.files (m.resolve path)).1 with e' | ⟨⟩
    · exact ⟨.refl _, fun hclean => hclean _ _ e' hremoved, rfl⟩
    · rw [hremoved] at he
      cases he
  · next hdir =>
    rw [if_neg hdir]
    exact .refl m

lemma traceless_standard (args : List Value) (f : DirFunction) :
    (Action.standard args (block.map Block.observed) f : Observed E Value).Traceless := by
  by_cases hforeach : f = .foreach
  · subst hforeach
    exact traceless_lift_bind _ traceless_foreach
  by_cases hrmdir : f = .rmdir
  · subst hrmdir
    exact traceless_lift_bind _ traceless_rmdir
  exact traceless_of_careful (careful_standard hforeach hrmdir args)

end Observed

namespace Machine

/-- **Failed calls leave no trace.** A call of a method by any name on any value, and a call of a
standard function or of none at all by its name, with any arguments and any block: if it fails
before it has run its block, nothing tells the machine that it leaves from the one before, neither
now nor after any further operations on the store, and the files are the same if the file system is
one that refuses cleanly. -/
theorem alike_of_failed_call [Extension E] (hm : m.Reachable) (args : List Value)
    (block : Option (Block (Action E))) :
    (∀ name, (∀ f, m.functions.find? name ≠ some (.extra f)) →
      let ended := (Action.call name args (block.map Block.observed) : Observed E Value) m
      m.run (Action.call name args block) = ended.1 ∧
        ∀ e, ended.1.1 = .error e → ended.2 = [] → m.Alike ended.1.2) ∧
    ∀ v name,
      let ended := (Action.callMethod v name args (block.map Block.observed) : Observed E Value) m
      m.run (Action.callMethod v name args block) = ended.1 ∧
        ∀ e, ended.1.1 = .error e → ended.2 = [] → m.Alike ended.1.2 := by
  refine ⟨fun name hname => ?_, fun v name => ⟨?_, ?_⟩⟩
  · rcases hfind : m.functions.find? name with _ | f | f
    · rw [Observed.apply_call_of_none args hfind, run_call_of_none args hfind]
      exact ⟨rfl, fun _ _ _ => .refl m⟩
    · rw [Observed.apply_call_of_standard args hfind, run_call_of_standard args hfind,
        ← Action.act_standard_observed]
      exact ⟨rfl, Observed.traceless_standard args f m hm.consistent⟩
    · exact absurd hfind (hname f)
  · rw [← Action.act_callMethod_observed]
    rfl
  · exact Observed.traceless_of_careful (Observed.careful_callMethod v name args) m hm.consistent

lemma refusesCleanly_catalog : FileSystem.RefusesCleanly Catalog := by
  intro files path e he
  change (files.removeDir path).2 = files
  change (files.removeDir path).1 = .error e at he
  unfold Catalog.removeDir at *
  rcases hset : files.failures.remove.find? path with _ | text
  · rcases hdir : files.dirs.find? path with _ | _ | ⟨name, names⟩ <;> simp_all
  · simp

/-- Without a block `foreach` takes a slot and gives it back: one more is there, and it does not
show. -/
theorem alike_of_foreach_without_block :
    let ended := atRoot.run (Action.call "Dir.foreach" [.str "/"] none)
    ended.1 = .error .noBlock ∧ ended.2.store.slots = #[none] ∧ atRoot.store.slots = #[] ∧
      atRoot.Alike ended.2 ∧ ended.2.files = atRoot.files := by
  intro ended
  have hfind : atRoot.functions.find? "Dir.foreach" = some (.standard .foreach) := rfl
  have hcall := (alike_of_failed_call reachable_atRoot [.str "/"] none).1 "Dir.foreach"
    fun f hf => by rw [hfind] at hf; cases hf
  have halike : atRoot.Alike ended.2 := hcall.2 .noBlock rfl rfl
  exact ⟨rfl, rfl, rfl, halike, halike.files refusesCleanly_catalog⟩

end Machine

end Dirlang
