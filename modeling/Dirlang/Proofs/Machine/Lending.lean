import Mathlib
import Dirlang.Proofs.Machine.Iteration
import Dirlang.Proofs.Store.Alike

/-!
Directories that a call opens for the time of its block.

`Dir.open` lends a directory to its block and closes it afterwards; `Dir.foreach` keeps one to
itself and lets it go. Both do so whether the block succeeds or fails, and nothing else changes when
they do, whatever the block has made of the machine, as long as it has not released the directory.
-/

namespace Dirlang

variable {E : Embedding} {m m' : Machine E} {r : Ref} {d : Dir} {path : String}

namespace Machine

/-- A directory comes into the slot, which was empty, and nothing else is different. -/
structure Adds (r : Ref) (d : Dir) (m m' : Machine E) : Prop where
  empty : m.store.get? r = none
  get? : m'.store.get? = Function.update m.store.get? r (some (.dir d))
  rest : m' = { m with store := m'.store }

/-- The directory in the slot is closed, and nothing else is different. -/
structure Closes (r : Ref) (m m' : Machine E) : Prop where
  get? : ∃ d : Dir, m.store.get? r = some (.dir d) ∧
    m'.store.get? = Function.update m.store.get? r (some (.dir { d with isOpen := false }))
  slots : m'.store.slots.size = m.store.slots.size
  spare : m'.store.spare = m.store.spare
  rest : m' = { m with store := m'.store }

/-- The slot, which was occupied, is emptied and comes next, and nothing else is different. -/
structure GivesBack (r : Ref) (m m' : Machine E) : Prop where
  occupied : (m.store.get? r).isSome
  get? : m'.store.get? = Function.update m.store.get? r none
  slots : m'.store.slots.size = m.store.slots.size
  spare : m'.store.spare = r.slot :: m.store.spare
  next : m'.store.next = r
  rest : m' = { m with store := m'.store }

lemma adds_opened (h : m.store.Consistent) (path : String) :
    Adds m.store.next ⟨path, m.namesAt path, 0, true⟩ m (m.opened path) where
  empty := Store.get?_next h
  get? := by
    ext1 w
    have hopened := get?_opened h path
    have hw := Store.get?_alloc h (.dir (.ofListing path (Dir.listing m.files (m.resolve path)))) w
    rw [Function.update_apply]
    split
    · next hr => rw [hr, hopened]
    · next hr => exact hw.trans (if_neg hr)
  rest := rfl

lemma closes_of_dir (hd : m.store.get? r = some (.dir d)) :
    Closes r m (m.after (.change (.dir r) Dir.close)) where
  get? := by
    refine ⟨d, hd, ?_⟩
    ext1 w
    change (m.store.updateDir (.dir r) Dir.close).get? w = _
    rw [Store.updateDir, Store.get?_update, Function.update_apply, hd]
    rfl
  slots := Store.size_slots_update _ _ _
  spare := rfl
  rest := rfl

lemma givesBack_of_some {o : Object} (ho : m.store.get? r = some o) :
    GivesBack r m (m.after (.release (.dir r))) := by
  have hstore : (m.after (.release (.dir r))).store = (m.store.free r).2 := rfl
  have hfree := Store.free_of_some ho
  refine ⟨by rw [ho, Option.isSome_some], ?_, ?_, ?_, ?_, rfl⟩
  · ext1 w
    rw [hstore, Store.get?_free, Function.update_apply]
  · rw [hstore, hfree]
    exact Array.size_setIfInBounds
  · rw [hstore, hfree]
  · rw [hstore, hfree]
    rfl

lemma live_opened_afterAll (h : m.store.Consistent) {es : List (Event E)}
    (hes : ¬ Released es m.store.next) :
    ((m.opened path).afterAll es).store.Live (.dir m.store.next) :=
  live_of_not_released (consistent_opened h path) rfl (live_opened h path) hes

lemma live_of_spared {b : Block (Action E)} {items : List (List Value)}
    {invocations : List (Invocation E)} {ended : Except Error Unit × Machine E}
    (hturns : InTurn (fun args m => m.run (b args)) items m (invocations.map Invocation.turn) ended)
    (h : m.store.Consistent) (hlive : m.store.Live (.dir r))
    (hspares : ∀ i ∈ invocations, ∃ es, i.ended.2 = i.start.afterAll es ∧ ¬ Released es r) :
    ended.2.store.Live (.dir r) := by
  -- the next invocation must find the store consistent as well
  refine (hturns.kept (P := fun m => m.store.Consistent ∧ m.store.Live (.dir r)) ⟨h, hlive⟩
    fun t ht => ?_).2
  obtain ⟨i, hi, rfl⟩ := List.mem_map.mp ht
  rintro ⟨hconsistent, hlive⟩
  obtain ⟨es, hes, hspared⟩ := hspares i hi
  change i.ended.2.store.Consistent ∧ i.ended.2.store.Live (.dir r)
  rw [hes]
  exact ⟨consistent_afterAll hconsistent es, live_of_not_released hconsistent rfl hlive hspared⟩

end Machine

namespace Observed

open Machine

lemma apply_openDirFor_snd (hdir : FileSystem.isDir m.files (m.resolve path))
    (b : Block (Action E)) :
    ((Action.openDirFor path (some b.observed) : Observed E Value) m).2 =
      [⟨[.dir m.store.next], m.opened path, (m.opened path).run (b [.dir m.store.next])⟩] := by
  -- closing runs no block
  have hclose (x : Observed E Value) (hx : ∀ m, (x m).2 = []) (m' : Machine E) :
      ((do Action.updateDir (.dir m.store.next) Dir.close; x : Observed E Value) m').2 = [] := by
    rw [apply_bind, uniform_silent.updateDir Dir.close trivial m']
    rcases m'.run (Action.updateDir (.dir m.store.next) Dir.close) with ⟨e | u, m''⟩
    · rfl
    · exact hx m''
  rw [Action.openDirFor, apply_bind_of_ok (apply_openDir_of_dir hdir)]
  dsimp only
  rw [apply_bind, apply_attempt, Block.observed]
  rcases (m.opened path).run (b [.dir m.store.next]) with ⟨e | v, m'⟩
  · exact congrArg (List.cons _) (hclose (throw e) (fun _ => rfl) m')
  · exact congrArg (List.cons _) (hclose (pure .nil) (fun _ => rfl) m')

lemma apply_foreach (hdir : FileSystem.isDir m.files (m.resolve path))
    (block : Option (Block (Observed E))) :
    (Action.foreach path block : Observed E Value) m =
      let visited := (Action.callMethod (.dir m.store.next) "each" [] block : Observed E Value)
        (m.opened path)
      ((visited.1.1.map fun _ => .nil, visited.1.2.after (.release (.dir m.store.next))),
        visited.2) := by
  have heach : Action.method (.dir m.store.next) [] block .each =
      (Action.callMethod (.dir m.store.next) "each" [] block : Observed E Value) := rfl
  rw [Action.foreach, apply_bind_of_ok (apply_openDir_of_dir hdir), apply_bind, heach,
    apply_attempt]
  rcases (Action.callMethod (.dir m.store.next) "each" [] block : Observed E Value)
    (m.opened path) with ⟨⟨e | v, m'⟩, calls⟩
  · exact congrArg _ (List.append_nil calls)
  · exact congrArg _ (List.append_nil calls)

lemma inTurn_foreach (h : m.store.Consistent)
    (hdir : FileSystem.isDir m.files (m.resolve path)) (b : Block (Action E)) :
    ∃ invocations ended,
      InTurn (fun args m => m.run (b args)) ((m.namesAt path).map ([.str ·])) (m.opened path)
        (invocations.map Invocation.turn) ended ∧
      (Action.foreach path (some b.observed) : Observed E Value) m =
        ((ended.1.map fun _ => .nil, ended.2.after (.release (.dir m.store.next))),
          invocations) := by
  have hturns := inTurn_forM b (m.namesAt path) (m.opened path)
  have heach := apply_each (get?_opened h path) b.observed
  refine ⟨_, _, hturns, ?_⟩
  rw [apply_foreach hdir, heach]
  generalize hvisited : (forM (m.namesAt path) fun name => discard (b.observed [.str name]) :
    Observed E Unit) (m.opened path) = visited
  have hnames : (Action.eachName ⟨path, m.namesAt path, 0, true⟩ b.observed : Observed E Unit)
      (m.opened path) = visited := hvisited
  rw [hnames]
  rcases visited with ⟨⟨e | u, m'⟩, calls⟩ <;> rfl

end Observed

namespace Machine

/-- **Lending a directory closes it and does nothing else.** Let a directory be opened for any
block. A new directory is there for the block, open, at its first name, and with the names that the
file system lists now. The block runs exactly once and is given just this directory. If it does not
release it, then the call ends as the block did, with nil for its value, on the machine that the
block left but for the directory, which is closed. If there is no directory at the path, the block
never runs. -/
theorem openDir_only_closes (hm : m.Reachable) (path : String) (b : Block (Action E)) :
    let r := m.store.next
    let start := m.opened path
    let ended := start.run (b [.dir r])
    let call := (Action.standard [.str path] (some b.observed) .openDir : Observed E Value) m
    m.run (Action.standard [.str path] (some b) .openDir) = call.1 ∧
    (FileSystem.isDir m.files (m.resolve path) →
      Adds r ⟨path, m.namesAt path, 0, true⟩ m start ∧
      call.2 = [⟨[.dir r], start, ended⟩] ∧
      ∀ es, ended.2 = start.afterAll es → ¬ Released es r →
        call.1.1 = ended.1.map (fun _ => .nil) ∧ Closes r ended.2 call.1.2) ∧
    (¬ FileSystem.isDir m.files (m.resolve path) →
      call = ((.error (.notADirectory path), m), [])) := by
  intro r start ended call
  have hrun : m.run (Action.standard [.str path] (some b) .openDir) = call.1 :=
    Action.run_standard_observed (some b) m _ _
  refine ⟨hrun, fun hdir => ⟨adds_opened hm.consistent path, ?_, fun es hes hr => ?_⟩,
    fun hdir => ?_⟩
  · exact Observed.apply_openDirFor_snd hdir b
  · have hlive : ended.2.store.Live (.dir r) := by
      rw [hes]
      exact live_opened_afterAll hm.consistent hr
    obtain ⟨d, hd⟩ := Store.live_dir_iff.mp hlive
    have hcall : call.1 = closing r ended := hrun.symm.trans (run_openDirFor hdir b)
    rw [hcall, closing_of_dir hd]
    exact ⟨rfl, closes_of_dir hd⟩
  · exact Observed.apply_bind_of_error (Observed.apply_openDir_of_not_dir hdir) _

/-- Moves the cursor of its directory, opens another directory, and fails. -/
def moving (path : String) : Block (Action E) := fun args => do
  let _ ← Action.callMethod (args.headD .nil) "seek" [.int 2] none
  let _ ← Action.openDir path
  throw (.argument "stop")

/-- The block fails, and its directory is closed where the block has left its cursor, while the one
that the block opened stays open. -/
theorem openDir_only_closes_moved :
    let ended := (twoNames.opened "/").run (moving "/" [.dir ⟨0⟩])
    let result := twoNames.run (Action.standard [.str "/"] (some (moving "/")) .openDir)
    let es := [.change (.dir ⟨0⟩) (·.seek 2), .alloc (.dir ⟨"/", [".", "..", "b", "a"], 0, true⟩)]
    twoNames.Reachable ∧ FileSystem.isDir twoNames.files (twoNames.resolve "/") ∧
      ended.2 = (twoNames.opened "/").afterAll es ∧ ¬ Released es ⟨0⟩ ∧
      result.1 = .error (.argument "stop") ∧ Closes ⟨0⟩ ended.2 result.2 ∧
      result.2.store.get? ⟨0⟩ = some (.dir ⟨"/", [".", "..", "b", "a"], 2, false⟩) ∧
      result.2.store.get? ⟨1⟩ = some (.dir ⟨"/", [".", "..", "b", "a"], 0, true⟩) := by
  intro ended result es
  have hm : twoNames.Reachable := ⟨_, _, _, _, [], rfl⟩
  have hdir : FileSystem.isDir twoNames.files (twoNames.resolve "/") := by decide
  have hes : ended.2 = (twoNames.opened "/").afterAll es := rfl
  have hr : ¬ Released es ⟨0⟩ := by simp [es, Event.Releases]
  obtain ⟨hrun, hlent, -⟩ := openDir_only_closes hm "/" (moving "/")
  obtain ⟨-, -, hends⟩ := hlent hdir
  obtain ⟨houtcome, hcloses⟩ := hends es hes hr
  rw [← hrun] at houtcome hcloses
  exact ⟨hm, hdir, hes, hr, houtcome, hcloses, rfl, rfl⟩

lemma run_foreach_without_block (m : Machine E) (path : String) :
    m.run (Action.foreach path none) =
      if FileSystem.isDir m.files (m.resolve path) then
        (.error .noBlock, (m.opened path).after (.release (.dir m.store.next)))
      else (.error (.notADirectory path), m) := by
  rw [Action.foreach, run_bind, run_openDir]
  by_cases hdir : FileSystem.isDir m.files (m.resolve path)
  · rw [if_pos hdir, if_pos hdir]
    rfl
  · rw [if_neg hdir, if_neg hdir]

/-- **Visiting gives the slot back.** Let `foreach` be called for a directory, with any block. The
names that the file system lists before the block first runs take their turns with the block, up to
the first one that fails; the call answers nil or fails with that failure. If none of these
invocations releases the slot of the directory that `foreach` has opened, then the call leaves the
machine that the last of them left, but for that slot, which is emptied and is the next to be used.
Without a block the call fails with what is wrong first with its arguments, with the path or for
want of a block, and nothing in the store ever tells that it was made. -/
theorem foreach_gives_back (hm : m.Reachable) :
    (∀ path, FileSystem.isDir m.files (m.resolve path) → ∀ b : Block (Action E),
      let r := m.store.next
      let call := (Action.standard [.str path] (some b.observed) .foreach : Observed E Value) m
      m.run (Action.standard [.str path] (some b) .foreach) = call.1 ∧
      Adds r ⟨path, m.namesAt path, 0, true⟩ m (m.opened path) ∧
      ∃ ended, InTurn (fun args m => m.run (b args)) ((m.namesAt path).map ([.str ·]))
          (m.opened path) (call.2.map Invocation.turn) ended ∧
        call.1.1 = ended.1.map (fun _ => .nil) ∧
        ((∀ i ∈ call.2, ∃ es, i.ended.2 = i.start.afterAll es ∧ ¬ Released es r) →
          GivesBack r ended.2 call.1.2)) ∧
    ∀ args,
      let result := m.run (Action.standard args none .foreach)
      result.1 = .error (match args with
        | [.str path] =>
          if FileSystem.isDir m.files (m.resolve path) then .argument "no block given"
          else .notADirectory path
        | [v] => v.mismatch "str"
        | _ => .arity 1 1 args.length) ∧
      m.store.Alike result.2.store ∧ result.2 = { m with store := result.2.store } := by
  refine ⟨fun path hdir b => ?_, fun args => ?_⟩
  · intro r call
    have hrun : m.run (Action.standard [.str path] (some b) .foreach) = call.1 :=
      Action.run_standard_observed (some b) m _ _
    obtain ⟨invocations, ended, hturns, hcall⟩ := Observed.inTurn_foreach hm.consistent hdir b
    have hcall : call = _ := hcall
    refine ⟨hrun, adds_opened hm.consistent path, ?_⟩
    rw [hcall]
    refine ⟨ended, hturns, rfl, fun hspares => ?_⟩
    have hlive : ended.2.store.Live (.dir r) :=
      live_of_spared hturns (consistent_opened hm.consistent path) (live_opened hm.consistent path)
        hspares
    obtain ⟨d, hd⟩ := Store.live_dir_iff.mp hlive
    exact givesBack_of_some hd
  · rcases args with _ | ⟨v, _ | ⟨w, rest⟩⟩
    · exact ⟨rfl, .refl _, rfl⟩
    · cases v with
      | str path =>
        have hrun : m.run (Action.standard [.str path] none .foreach) = _ :=
          run_foreach_without_block m path
        intro result
        dsimp only [result]
        rw [hrun]
        by_cases hdir : FileSystem.isDir m.files (m.resolve path)
        · rw [if_pos hdir, if_pos hdir]
          exact ⟨rfl, Store.alike_free_alloc hm.consistent _, rfl⟩
        · rw [if_neg hdir, if_neg hdir]
          exact ⟨rfl, .refl _, rfl⟩
      | _ => exact ⟨rfl, .refl _, rfl⟩
    · cases v <;> exact ⟨rfl, .refl _, rfl⟩

/-- Makes a list of what it is called with, up to a certain name. -/
def hoarding : Block (Action E)
  | [.str "b"] => throw (.argument "stop")
  | args => Action.newList args

lemma afterAll_hoarding (args : List Value) (m : Machine E) (r : Ref) :
    ∃ es, (m.run (hoarding args)).2 = m.afterAll es ∧ ¬ Released es r := by
  unfold hoarding
  split
  · exact ⟨[], rfl, by simp⟩
  · exact ⟨[.alloc (.list args)], rfl, by simp [Event.Releases]⟩

/-- The block fails at the third name. Its lists are still there, and the next object will be where
the directory was. -/
theorem foreach_gives_back_hoarding :
    let call (block : Option (Block (Action (Script.scene Catalog)))) :=
      twoNames.run (Action.standard [.str "/"] block .foreach)
    let result := call (some hoarding)
    twoNames.Reachable ∧ FileSystem.isDir twoNames.files (twoNames.resolve "/") ∧
      result.1 = .error (.argument "stop") ∧ (∃ last, GivesBack ⟨0⟩ last result.2) ∧
      result.2.store.get? ⟨1⟩ = some (.list [.str "."]) ∧
      result.2.store.get? ⟨2⟩ = some (.list [.str ".."]) ∧
      (call none).1 = .error (.argument "no block given") := by
  intro call result
  have hm : twoNames.Reachable := ⟨_, _, _, _, [], rfl⟩
  have hdir : FileSystem.isDir twoNames.files (twoNames.resolve "/") := by decide
  obtain ⟨hblock, hnone⟩ := foreach_gives_back hm
  obtain ⟨hrun, -, ended, hturns, -, hback⟩ := hblock "/" hdir hoarding
  refine ⟨hm, hdir, rfl, ⟨ended.2, ?_⟩, rfl, rfl, (hnone [.str "/"]).1⟩
  have hresult : result = _ := hrun
  rw [hresult]
  refine hback fun i hi => ?_
  have hcalled : i.ended = i.start.run (hoarding i.args) :=
    hturns.called i.turn (List.mem_map_of_mem hi)
  rw [hcalled]
  exact afterAll_hoarding _ _ _

end Machine

end Dirlang
