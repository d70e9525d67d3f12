import Mathlib
import Dirlang.Machine.Functions

/-!
How actions run, construct by construct: where the code of a function consists of binds, throws
and the like, these equations say what a machine makes of it.
-/

namespace Dirlang

variable {E : Embedding} {α β : Type}

namespace Machine

lemma run_pure (m : Machine E) (a : α) : m.run (pure a : Action E α) = (.ok a, m) := rfl

lemma run_bind (m : Machine E) (x : Action E α) (f : α → Action E β) :
    m.run (x >>= f) = match m.run x with
      | (.ok a, m') => m'.run (f a)
      | (.error e, m') => (.error e, m') := rfl

lemma run_throw (m : Machine E) (e : Error) :
    m.run (throw e : Action E α) = (.error e, m) := rfl

lemma run_tryCatch (m : Machine E) (x : Action E α) (handle : Error → Action E α) :
    m.run (tryCatch x handle) = match m.run x with
      | (.ok a, m') => (.ok a, m')
      | (.error e, m') => m'.run (handle e) := rfl

lemma run_look (m : Machine E) : m.run (look : Action E (Machine E)) = (.ok m, m) := rfl

lemma run_perform (m : Machine E) (e : Event E) :
    m.run (perform e : Action E Unit) = (.ok (), m.after e) := rfl

lemma run_lift (m : Machine E) (x : Except Error α) :
    m.run (liftM x : Action E α) = (x, m) := by
  cases x <;> rfl

/-! ### The actions -/

lemma run_release (m : Machine E) (v : Value) :
    m.run (Action.release v) = (.ok (m.store.release v).1, m.after (.release v)) := rfl

lemma run_dir (m : Machine E) (v : Value) : m.run (Action.dir v) = (m.store.dir v, m) :=
  run_lift m (m.store.dir v)

lemma run_updateDir (m : Machine E) (v : Value) (f : Dir → Dir) :
    m.run (Action.updateDir v f) = match m.store.dir v with
      | .ok _ => (.ok (), m.after (.change v f))
      | .error e => (.error e, m) := by
  rw [Action.updateDir, run_bind, run_dir]
  cases m.store.dir v <;> rfl

lemma run_attempt (m : Machine E) (x : Action E α) :
    m.run (Action.attempt x) = (.ok (m.run x).1, (m.run x).2) := by
  rw [Action.attempt, run_tryCatch, run_bind]
  rcases m.run x with ⟨e | a, m'⟩ <;> rfl

/-- The machine once the directory at a path is open. -/
def opened (m : Machine E) (path : String) : Machine E :=
  m.after (.alloc (.dir (.ofListing path (Dir.listing m.files (m.resolve path)))))

lemma run_openDir (m : Machine E) (path : String) :
    m.run (Action.openDir path) =
      if FileSystem.isDir m.files (m.resolve path) then (.ok (.dir m.store.next), m.opened path)
      else (.error (.notADirectory path), m) := by
  rw [Action.openDir, run_bind, run_look]
  dsimp only
  rw [run_bind, run_lift, Dir.openAt, opened, resolve]
  by_cases h : FileSystem.isDir m.files (Path.resolve m.currentDir path)
  · simp [h, run_bind, run_perform, run_pure, Store.newDir, Store.alloc_fst]
  · simp [h]

/-! ### Calls by name -/

lemma run_call [Extension E] (m : Machine E) (name : String) (args : List Value)
    (block : Option (Block (Action E))) :
    m.run (Action.call name args block) = match m.functions.find? name with
      | some f => m.run (Action.callFunction f args block)
      | none => (.error (.noMethod name "runtime"), m) := by
  rw [Action.call, run_bind, run_look]
  dsimp only
  cases m.functions.find? name <;> rfl

end Machine

end Dirlang
