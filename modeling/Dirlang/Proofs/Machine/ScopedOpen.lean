import Mathlib
import Dirlang.Proofs.Machine.Runs

/-!
Opening a directory for a block.

When the block is over, the directory is looked up again by its slot and closed. A block that
releases its directory leaves behind whatever the slot holds by then: nothing or a list, and the
call fails with an error of its own; or another directory, and the call closes that one.
-/

namespace Dirlang

namespace Store

variable {s : Store} {r : Ref}

/-- There is an open directory in the slot. -/
def OpenAt (s : Store) (r : Ref) : Prop := ∃ d : Dir, s.get? r = some (.dir d) ∧ d.isOpen

lemma openAt_iff {d : Dir} (h : s.get? r = some (.dir d)) : s.OpenAt r ↔ d.isOpen := by
  simp [OpenAt, h]

lemma openAt_close {w : Ref} : (s.updateDir (.dir r) Dir.close).OpenAt w ↔ w ≠ r ∧ s.OpenAt w := by
  unfold OpenAt
  rw [updateDir, get?_update]
  by_cases hw : w = r
  · rcases hr : s.get? r with _ | _ | d <;> simp [hw, Dir.close]
  · simp [hw]

end Store

namespace Machine

variable {E : Embedding} {m : Machine E} {r : Ref}

/-- What a call that opened a directory makes of the end of its block. -/
def closing (r : Ref) (ended : Except Error Value × Machine E) : Except Error Value × Machine E :=
  match ended.2.store.dir (.dir r) with
  | .ok _ => (ended.1.map fun _ => .nil, ended.2.after (.change (.dir r) Dir.close))
  | .error e => (.error e, ended.2)

lemma closing_of_dir {ended : Except Error Value × Machine E} {d : Dir}
    (hd : ended.2.store.get? r = some (.dir d)) :
    closing r ended =
      (ended.1.map fun _ => .nil, ended.2.after (.change (.dir r) Dir.close)) := by
  simp [closing, Store.dir, hd]

lemma run_openDirFor {path : String} (hdir : FileSystem.isDir m.files (m.resolve path))
    (b : Block (Action E)) :
    m.run (Action.openDirFor path (some b)) =
      closing m.store.next ((m.opened path).run (b [.dir m.store.next])) := by
  rw [Action.openDirFor, run_bind, run_openDir, if_pos hdir]
  dsimp only
  rw [run_bind, run_attempt]
  dsimp only
  rw [run_bind, run_updateDir, closing]
  rcases (m.opened path).run (b [.dir m.store.next]) with ⟨outcome, m'⟩
  dsimp only
  cases m'.store.dir (.dir m.store.next) with
  | error e => rfl
  | ok d => cases outcome <;> rfl

lemma consistent_opened (h : m.store.Consistent) (path : String) :
    (m.opened path).store.Consistent :=
  consistent_after h _

lemma live_opened (h : m.store.Consistent) (path : String) :
    (m.opened path).store.Live (.dir m.store.next) :=
  (Store.live_alloc h _).mpr (.inr rfl)

/-- The call that opened the directory in slot `r` ends as its block did, whose events are `es`,
and closes no other directory than this one. -/
def Faithful (r : Ref) (es : List (Event E)) (ended result : Except Error Value × Machine E) :
    Prop :=
  result.1 = ended.1.map (fun _ => .nil) ∧
    ∀ w, ended.2.store.OpenAt w → w ≠ r ∨ Released es r → result.2.store.OpenAt w

variable {es : List (Event E)} {ended : Except Error Value × Machine E}

lemma faithful_closing_of_dir {d : Dir} (hd : ended.2.store.get? r = some (.dir d)) :
    Faithful r es ended (closing r ended) ↔ ¬ Released es r ∨ d.isOpen = false := by
  have hopen : ended.2.store.OpenAt r ↔ d.isOpen := Store.openAt_iff hd
  have hclose {w : Ref} : (ended.2.after (.change (.dir r) Dir.close)).store.OpenAt w ↔
      w ≠ r ∧ ended.2.store.OpenAt w := Store.openAt_close
  rw [closing_of_dir hd, Faithful]
  constructor
  · rintro ⟨-, hkeep⟩
    by_cases hr : Released es r
    · refine .inr (Bool.not_eq_true _ ▸ fun ho => ?_)
      exact (hclose.mp (hkeep r (hopen.mpr ho) (.inr hr))).1 rfl
    · exact .inl hr
  · intro h
    refine ⟨rfl, fun w hw hor => hclose.mpr ⟨?_, hw⟩⟩
    rintro rfl
    rcases h with hr | ho
    · exact hr (hor.resolve_left fun hne => hne rfl)
    · rw [hopen, ho] at hw
      cases hw

lemma faithful_closing_of_not_live (h : ¬ ended.2.store.Live (.dir r)) :
    Faithful r es ended (closing r ended) ↔ ended.1 = .error .danglingObject := by
  have hclosing : closing r ended = (.error .danglingObject, ended.2) := by
    simp [closing, Store.dir_of_not_live h]
  rw [hclosing, Faithful]
  constructor
  · rintro ⟨houtcome, -⟩
    cases hended : ended.1 with
    | ok v => rw [hended] at houtcome; cases houtcome
    | error e => rw [hended] at houtcome; exact houtcome.symm
  · exact fun houtcome => ⟨by rw [houtcome]; rfl, fun w hw _ => hw⟩

/-- **When opening for a block is faithful.** Let a directory be opened for any block, and let the
block do what the events `es` say. The call ends as the block did and closes no other directory
if and only if the block did not release the directory, or left a closed one in its slot, or left
none there and failed with just the error that the call then fails with. -/
theorem openDir_faithful_iff (hm : m.Reachable) {path : String}
    (hdir : FileSystem.isDir m.files (m.resolve path)) (b : Block (Action E))
    (hes : ((m.opened path).run (b [.dir m.store.next])).2 = (m.opened path).afterAll es) :
    let r := m.store.next
    let ended := (m.opened path).run (b [.dir r])
    Faithful r es ended (m.run (Action.standard [.str path] (some b) .openDir)) ↔
      ¬ Released es r ∨
      (∃ d : Dir, ended.2.store.get? r = some (.dir d) ∧ d.isOpen = false) ∨
      ¬ ended.2.store.Live (.dir r) ∧ ended.1 = .error .danglingObject := by
  intro r ended
  have hresult : m.run (Action.standard [.str path] (some b) .openDir) = closing r ended :=
    run_openDirFor hdir b
  rw [hresult]
  by_cases hlive : ended.2.store.Live (.dir r)
  · obtain ⟨d, hd⟩ := Store.live_dir_iff.mp hlive
    rw [faithful_closing_of_dir hd]
    simp [hlive, hd]
  · have hreleased : Released es r := by
      -- a directory that is not released is still there
      by_contra hr
      refine hlive ?_
      change ((m.opened path).run (b [.dir m.store.next])).2.store.Live _
      rw [hes]
      exact live_of_not_released (consistent_opened hm.consistent path) rfl
        (live_opened hm.consistent path) hr
    have hnodir (d : Dir) : ended.2.store.get? r ≠ some (.dir d) :=
      fun hd => hlive (Store.live_dir_iff.mpr ⟨d, hd⟩)
    rw [faithful_closing_of_not_live hlive]
    simp [hlive, hreleased, hnodir]

/-! ### Two blocks that release their directory -/

/-- Releases the directory and fails. -/
def releasing (e : Error) : Block (Action E) := fun args => do
  let _ ← Action.release (args.headD .nil)
  throw e

/-- Releases the directory and opens another. -/
def swapping (path : String) : Block (Action E) := fun args => do
  let _ ← Action.release (args.headD .nil)
  Action.openDir path

/-- A block that releases its directory and fails: its error is lost. -/
theorem openDir_releasing_not_faithful :
    ¬ Faithful atRoot.store.next [.release (.dir ⟨0⟩)]
      ((atRoot.opened "/").run (releasing (.argument "stop") [.dir atRoot.store.next]))
      (atRoot.run (Action.standard [.str "/"] (some (releasing (.argument "stop"))) .openDir)) := by
  intro h
  rcases (openDir_faithful_iff reachable_atRoot (by decide) _ rfl).mp h with
    hr | ⟨d, hd, -⟩ | ⟨-, h⟩
  · exact hr ⟨_, List.mem_singleton_self _, _, rfl, rfl⟩
  · cases hd
  · cases h

/-- A block that releases its directory and opens another: the call closes the other one. -/
theorem openDir_closes_another :
    let ended := (atRoot.opened "/").run (swapping "/" [.dir atRoot.store.next])
    let result := atRoot.run (Action.standard [.str "/"] (some (swapping "/")) .openDir)
    ended.1 = .ok (.dir ⟨0⟩) ∧ result.1 = .ok .nil ∧
      ended.2.store.get? ⟨0⟩ = some (.dir ⟨"/", [".", ".."], 0, true⟩) ∧
      result.2.store.get? ⟨0⟩ = some (.dir ⟨"/", [".", ".."], 0, false⟩) := by
  refine ⟨?_, ?_, ?_, ?_⟩ <;> rfl

end Machine

end Dirlang
