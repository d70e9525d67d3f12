import Mathlib
import Dirlang.Proofs.Machine.Iteration

/-!
The paths that fit a pattern, in a list or one by one.

The file system is asked for them once, at the start. They make a list, or they take their turns
with a block, which may do anything to the machine, also to the files that were asked for and to the
directory they were seen from.
-/

namespace Dirlang

variable {E : Embedding} {m : Machine E} {pattern text : String} {paths : List String}

lemma Observed.apply_glob (hglob : FileSystem.glob m.files m.currentDir pattern = .ok paths)
    (b : Block (Observed E)) :
    (Action.standard [.str pattern] (some b) .glob : Observed E Value) m =
      let visited := (paths.forM fun path => discard (b [.str path]) : Observed E Unit) m
      ((visited.1.1.map fun _ => Value.nil, visited.1.2), visited.2) := by
  change (Action.glob pattern (some b) : Observed E Value) m = _
  rw [Action.glob, apply_look_bind, hglob]
  dsimp only
  rw [apply_bind]
  rcases (paths.forM fun path => discard (b [.str path]) : Observed E Unit) m with
    ⟨⟨e | u, m'⟩, calls⟩
  · rfl
  · exact congrArg _ (List.append_nil calls)

lemma Observed.apply_glob_of_error
    (hglob : FileSystem.glob m.files m.currentDir pattern = .error text)
    (block : Option (Block (Observed E))) :
    (Action.standard [.str pattern] block .glob : Observed E Value) m =
      ((.error (.systemCall text), m), []) := by
  change (Action.glob pattern block : Observed E Value) m = _
  rw [Action.glob, apply_look_bind, hglob]
  rfl

namespace Machine

lemma run_glob_of_error (hglob : FileSystem.glob m.files m.currentDir pattern = .error text)
    (block : Option (Block (Action E))) :
    m.run (Action.standard [.str pattern] block .glob) = (.error (.systemCall text), m) := by
  rw [Action.run_standard_observed, Observed.apply_glob_of_error hglob]

lemma run_glob_none (hglob : FileSystem.glob m.files m.currentDir pattern = .ok paths) :
    m.run (Action.standard [.str pattern] none .glob) = m.run (Action.newStrings paths) := by
  change m.run (Action.glob pattern none) = _
  rw [Action.glob, run_bind, run_look]
  dsimp only
  rw [hglob]

variable [Extension E] {name : String}

/-- **A block gets what would be listed.** Let `glob` be called by one of its names, without a block
and with one, on the same machine. The one call answers a new list of the paths that fit the
pattern. In the other the same paths take their turns with the block, whatever it is; the call ends
with the failure of the last turn, or answers nil, on the machine that the last turn left, so that
it makes nothing itself. If the file system refuses, both calls fail with its text, the machine
stays as it is, and the block is not called. -/
theorem glob_in_turn (hm : m.Reachable) (hfind : m.functions.find? name = some (.standard .glob))
    (pattern : String) (b : Block (Action E)) :
    let listed := m.run (Action.call name [.str pattern] none)
    let handed := m.run (Action.call name [.str pattern] (some b))
    let observed := (Action.call name [.str pattern] (some b.observed) : Observed E Value) m
    observed.1 = handed ∧
      match FileSystem.glob m.files m.currentDir pattern with
      | .ok paths =>
        listed = (.ok (.list m.store.next), m.after (.alloc (.list (paths.map .str)))) ∧
        listed.2.store.strings (.list m.store.next) = .ok paths ∧
        ∃ ended, InTurn (fun args m => m.run (b args)) (paths.map ([.str ·])) m
            (observed.2.map Invocation.turn) ended ∧
          handed = (ended.1.map fun _ => Value.nil, ended.2)
      | .error text => listed = (.error (.systemCall text), m) ∧
        handed = (.error (.systemCall text), m) ∧ observed.2 = [] := by
  intro listed handed observed
  have hobserved : observed =
      (Action.standard [.str pattern] (some b.observed) .glob : Observed E Value) m :=
    Observed.apply_call_of_standard _ hfind _
  have hhanded : observed.1 = handed := by
    rw [hobserved]
    exact ((run_call_of_standard _ hfind _).trans
      (Action.run_standard_observed (some b) m [.str pattern] .glob)).symm
  have hlisted : listed = m.run (Action.standard [.str pattern] none .glob) :=
    run_call_of_standard _ hfind _
  refine ⟨hhanded, ?_⟩
  rcases hglob : FileSystem.glob m.files m.currentDir pattern with text | paths
  · rw [Observed.apply_glob_of_error hglob] at hobserved
    refine ⟨hlisted.trans (run_glob_of_error hglob none), ?_, congrArg Prod.snd hobserved⟩
    rw [← hhanded, hobserved]
  · rw [Observed.apply_glob hglob] at hobserved
    have hlist := hlisted.trans ((run_glob_none hglob).trans (run_newStrings m paths))
    have hstrings : listed.2.store.strings (.list m.store.next) = .ok paths := by
      rw [hlist]
      exact strings_after_alloc hm.consistent paths
    have hturns := Observed.inTurn_forM b paths m
    refine ⟨hlist, hstrings, _, ?_, hhanded.symm.trans (congrArg Prod.fst hobserved)⟩
    rw [hobserved]
    exact hturns

/-- A machine with paths for one pattern and an error for another. -/
def sought : Machine (Script.scene Catalog) :=
  start {} { Catalog.empty with
    hits := [("*", ["b", "b", "a", "c"])]
    failures := { Catalog.empty.failures with glob := [("[", "no end")] } } ⟨[], none⟩ .empty

/-- Goes away, forgets all files and makes a list, and fails when it gets to `a`. -/
def straying : Block (Action (Script.scene Catalog))
  | [.str "a"] => throw (.argument "stop")
  | _ => do
    perform (.goTo "/gone")
    perform (.files Catalog.empty)
    Action.newList []

/-- The path that comes twice is handed out twice, and the fourth one never. -/
theorem glob_in_turn_straying :
    let paths := ["b", "b", "a", "c"]
    let call (pattern : String) := sought.run (Action.call "Dir.[]" [.str pattern] (some straying))
    sought.Reachable ∧ sought.functions.find? "Dir.[]" = some (.standard .glob) ∧
      (sought.run (Action.call "Dir.[]" [.str "*"] none)).2.store.strings (.list ⟨0⟩) = .ok paths ∧
      (call "*").1 = .error (.argument "stop") ∧
      (∃ turns ended, InTurn (fun args m => m.run (straying args)) (paths.map ([.str ·])) sought
        turns ended ∧ turns.length = 3 ∧ call "*" = (ended.1.map fun _ => .nil, ended.2)) ∧
      call "[" = (.error (.systemCall "no end"), sought) := by
  intro paths call
  have hm : sought.Reachable := ⟨_, _, _, _, [], rfl⟩
  have hfind : sought.functions.find? "Dir.[]" = some (.standard .glob) := rfl
  have hglob : FileSystem.glob sought.files sought.currentDir "*" = .ok paths := by decide +kernel
  have hrefused : FileSystem.glob sought.files sought.currentDir "[" = .error "no end" := by
    decide +kernel
  have hcall := (glob_in_turn hm hfind "*" straying).2
  have hfailed := (glob_in_turn hm hfind "[" straying).2
  rw [hglob] at hcall
  rw [hrefused] at hfailed
  obtain ⟨-, hstrings, ended, hturns, hended⟩ := hcall
  refine ⟨hm, hfind, hstrings, rfl, ⟨_, ended, hturns, ?_, hended⟩, hfailed.2.1⟩
  rw [List.length_map]
  rfl

end Machine

end Dirlang
