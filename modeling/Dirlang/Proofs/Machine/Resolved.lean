import Mathlib
import Dirlang.Proofs.Machine.CurrentDir

/-!
What the current directory is for.

A function that is given a path looks where the path leads from the current directory, and nowhere
else. So from two directories, with paths that lead to the same place, it does the same: it asks the
file system for the same things, and all that tells the runs apart is that each quotes its own path.
-/

namespace Dirlang

/-- The same error, but for the path that it quotes. -/
inductive Error.Requoted (p₁ p₂ : String) : Error → Error → Prop
  | same (e : Error) : Requoted p₁ p₂ e e
  | notADirectory : Requoted p₁ p₂ (.notADirectory p₁) (.notADirectory p₂)
  | alreadyExists : Requoted p₁ p₂ (.alreadyExists p₁) (.alreadyExists p₂)
  | systemCall (text : String) :
    Requoted p₁ p₂ (.systemCall (text ++ " - " ++ p₁)) (.systemCall (text ++ " - " ++ p₂))

lemma Error.Requoted.eq {p : String} {e e' : Error} (h : e.Requoted p p e') : e = e' := by
  cases h <;> rfl

/-- The same answer, or the same error but for the path. -/
inductive EndsAlike (p₁ p₂ : String) : Except Error Value → Except Error Value → Prop
  | ok (v : Value) : EndsAlike p₁ p₂ (.ok v) (.ok v)
  | error {e₁ e₂ : Error} (h : e₁.Requoted p₁ p₂ e₂) : EndsAlike p₁ p₂ (.error e₁) (.error e₂)

lemma EndsAlike.eq {p : String} {o o' : Except Error Value} (h : EndsAlike p p o o') : o = o' := by
  cases h with
  | ok v => rfl
  | error h => rw [h.eq]

/-- The functions that are given the path of a directory. -/
def DirFunction.onPaths : List DirFunction := [.newDir, .openDir, .entries, .chdir, .rmdir, .mkdir]

namespace Machine

variable {E : Embedding} {m : Machine E} {f : DirFunction} {c₁ c₂ p₁ p₂ : String}

/-- How the runs of a function on `m` end, the one in `c₁` with the path `p₁`, and the other in `c₂`
with `p₂`. -/
structure Agree (m : Machine E) (f : DirFunction) (c₁ p₁ c₂ p₂ : String)
    (ended₁ ended₂ : Except Error Value × Machine E) : Prop where
  outcome : EndsAlike p₁ p₂ ended₁.1 ended₂.1
  /-- A directory is put in the same slot with the same names, and remembers its own path. -/
  store : ended₁.2.store = ended₂.2.store ∨ ∃ names : List String,
    ended₁.2.store = (m.store.alloc (.dir (.ofListing p₁ names))).2 ∧
    ended₂.2.store = (m.store.alloc (.dir (.ofListing p₂ names))).2
  /-- The runs go to the same place, or each stays where it is. -/
  currentDir : if f = .chdir ∧ ended₁.1.isOk then ended₁.2.currentDir = ended₂.2.currentDir
    else ended₁.2.currentDir = c₁ ∧ ended₂.2.currentDir = c₂
  rest : ended₂.2 =
    { ended₁.2 with store := ended₂.2.store, currentDir := ended₂.2.currentDir }

lemma Agree.eq {p : String} {ended₁ ended₂ : Except Error Value × Machine E}
    (h : Agree m f c₁ p c₂ p ended₁ ended₂) :
    ended₂ = (ended₁.1,
      if f = .chdir ∧ ended₁.1.isOk then ended₁.2 else ended₁.2.inDir c₂) := by
  have hstore : ended₂.2.store = ended₁.2.store := by
    obtain hstore | ⟨names, h₁, h₂⟩ := h.store
    · exact hstore.symm
    · rw [h₁, h₂]
  have hdir := h.currentDir
  have hmachine := h.rest
  rw [hstore] at hmachine
  refine Prod.ext h.outcome.eq.symm ?_
  rw [hmachine]
  split at hdir
  · rw [if_pos ‹_›, ← hdir]
  · rw [if_neg ‹_›, hdir.2]
    rfl

lemma agree_of_error {e₁ e₂ : Error} (h : e₁.Requoted p₁ p₂ e₂) :
    Agree m f c₁ p₁ c₂ p₂ (.error e₁, m.inDir c₁) (.error e₂, m.inDir c₂) where
  outcome := .error h
  store := .inl rfl
  currentDir := by simp [Except.isOk, Except.toBool, inDir]
  rest := rfl

lemma agree_of_files {o₁ o₂ : Except Error Value} (ho : EndsAlike p₁ p₂ o₁ o₂) (hf : f ≠ .chdir)
    (files : E.Files) :
    Agree m f c₁ p₁ c₂ p₂ (o₁, (m.inDir c₁).after (.files files))
      (o₂, (m.inDir c₂).after (.files files)) where
  outcome := ho
  store := .inl rfl
  currentDir := by simp [hf, inDir, after]
  rest := rfl

/-! ### The functions -/

lemma run_rmdir (m : Machine E) (path : String) :
    m.run (Action.rmdir path) =
      if FileSystem.isDir m.files (m.resolve path) then
        let removed := FileSystem.removeDir m.files (m.resolve path)
        (match removed.1 with
          | .ok () => .ok (.int 0)
          | .error e => .error (.systemCall (e ++ " - " ++ path)), m.after (.files removed.2))
      else (.error (.notADirectory path), m) := by
  rw [Action.rmdir, run_bind, run_look]
  dsimp only
  split
  · rw [run_bind, run_perform]
    dsimp only
    rcases (FileSystem.removeDir m.files (m.resolve path)).1 with e | ⟨⟩ <;> rfl
  · rfl

lemma run_mkdir (m : Machine E) (path : String) :
    m.run (Action.mkdir path) =
      if FileSystem.isDir m.files (m.resolve path) then (.error (.alreadyExists path), m)
      else
        let made := FileSystem.createDirAll m.files (m.resolve path)
        (match made.1 with
          | .ok () => .ok (.int 0)
          | .error _ => .ok (.int 1), m.after (.files made.2)) := by
  rw [Action.mkdir, run_bind, run_look]
  dsimp only
  split
  · rfl
  · rw [run_bind, run_perform]
    dsimp only
    rcases (FileSystem.createDirAll m.files (m.resolve path)).1 with e | ⟨⟩ <;> rfl

lemma run_openDirFor_none (m : Machine E) (path : String) :
    m.run (Action.openDirFor path none) = m.run (Action.openDir path) := by
  rw [Action.openDirFor, run_bind]
  rcases m.run (Action.openDir path) with ⟨e | v, m'⟩ <;> rfl

lemma files_inDir (m : Machine E) (dir : String) : (m.inDir dir).files = m.files := rfl

section

variable (h : Path.resolve c₁ p₁ = Path.resolve c₂ p₂)
include h

lemma resolve_inDir : (m.inDir c₁).resolve p₁ = (m.inDir c₂).resolve p₂ := h

lemma agree_ite {x₁ x₂ y₁ y₂ : Except Error Value × Machine E}
    (hx : Agree m f c₁ p₁ c₂ p₂ x₁ x₂) (hy : Agree m f c₁ p₁ c₂ p₂ y₁ y₂) :
    Agree m f c₁ p₁ c₂ p₂
      (if FileSystem.isDir (m.inDir c₁).files ((m.inDir c₁).resolve p₁) then x₁ else y₁)
      (if FileSystem.isDir (m.inDir c₂).files ((m.inDir c₂).resolve p₂) then x₂ else y₂) := by
  rw [files_inDir, files_inDir, resolve_inDir h]
  by_cases hdir : FileSystem.isDir m.files ((m.inDir c₂).resolve p₂)
  · rw [if_pos hdir, if_pos hdir]
    exact hx
  · rw [if_neg hdir, if_neg hdir]
    exact hy

lemma agree_openDir (hf : f ≠ .chdir) :
    Agree m f c₁ p₁ c₂ p₂ ((m.inDir c₁).run (Action.openDir p₁))
      ((m.inDir c₂).run (Action.openDir p₂)) := by
  rw [run_openDir, run_openDir]
  refine agree_ite h ?_ (agree_of_error .notADirectory)
  rw [opened, opened, resolve_inDir h]
  exact {
    outcome := .ok _
    store := .inr ⟨_, rfl, rfl⟩
    currentDir := by simp [hf, after, inDir]
    rest := rfl }

lemma agree_entries :
    Agree m .entries c₁ p₁ c₂ p₂
      ((m.inDir c₁).run (liftM (Dir.entriesAt m.files c₁ p₁) >>= Action.newStrings))
      ((m.inDir c₂).run (liftM (Dir.entriesAt m.files c₂ p₂) >>= Action.newStrings)) := by
  have hentries : Dir.entriesAt m.files c₁ p₁ = Dir.entriesAt m.files c₂ p₂ := by
    simp only [Dir.entriesAt, h]
  rw [hentries]
  rcases Dir.entriesAt m.files c₂ p₂ with e | names
  · exact agree_of_error (.same e)
  · exact ⟨.ok _, .inl rfl, ⟨rfl, rfl⟩, rfl⟩

lemma agree_chdir :
    Agree m .chdir c₁ p₁ c₂ p₂ ((m.inDir c₁).run (Action.chdir p₁ none))
      ((m.inDir c₂).run (Action.chdir p₂ none)) := by
  rw [run_chdir_of_path, run_chdir_of_path]
  refine agree_ite h ?_ (agree_of_error .notADirectory)
  rw [real, real, resolve_inDir h]
  exact ⟨.ok _, .inl rfl, rfl, rfl⟩

lemma agree_rmdir :
    Agree m .rmdir c₁ p₁ c₂ p₂ ((m.inDir c₁).run (Action.rmdir p₁))
      ((m.inDir c₂).run (Action.rmdir p₂)) := by
  rw [run_rmdir, run_rmdir]
  refine agree_ite h ?_ (agree_of_error .notADirectory)
  rw [files_inDir, files_inDir, resolve_inDir h]
  refine agree_of_files ?_ (by decide) _
  rcases (FileSystem.removeDir m.files ((m.inDir c₂).resolve p₂)).1 with e | ⟨⟩
  · exact .error (.systemCall e)
  · exact .ok _

lemma agree_mkdir :
    Agree m .mkdir c₁ p₁ c₂ p₂ ((m.inDir c₁).run (Action.mkdir p₁))
      ((m.inDir c₂).run (Action.mkdir p₂)) := by
  rw [run_mkdir, run_mkdir]
  refine agree_ite h (agree_of_error .alreadyExists) ?_
  rw [files_inDir, files_inDir, resolve_inDir h]
  refine agree_of_files ?_ (by decide) _
  rcases (FileSystem.createDirAll m.files ((m.inDir c₂).resolve p₂)).1 with e | ⟨⟩ <;> exact .ok _

end

lemma agree_onlyStr (body : String → Action E Value)
    (hbody : Agree m f c₁ p₁ c₂ p₂ ((m.inDir c₁).run (body p₁)) ((m.inDir c₂).run (body p₂)))
    (rest : List Value) :
    Agree m f c₁ p₁ c₂ p₂
      ((m.inDir c₁).run (liftM (Action.onlyStr (.str p₁ :: rest)) >>= body))
      ((m.inDir c₂).run (liftM (Action.onlyStr (.str p₂ :: rest)) >>= body)) := by
  cases rest with
  | nil => exact hbody
  | cons v rest => exact agree_of_error (.same _)

/-- The runs of a function agree if the paths lead to the same place. -/
lemma agree_standard (h : Path.resolve c₁ p₁ = Path.resolve c₂ p₂) (hf : f ∈ DirFunction.onPaths)
    (rest : List Value) :
    Agree m f c₁ p₁ c₂ p₂ ((m.inDir c₁).run (Action.standard (.str p₁ :: rest) none f))
      ((m.inDir c₂).run (Action.standard (.str p₂ :: rest) none f)) := by
  simp only [DirFunction.onPaths, List.mem_cons, List.not_mem_nil, or_false] at hf
  rcases hf with rfl | rfl | rfl | rfl | rfl | rfl
  · exact agree_onlyStr _ (agree_openDir h (by decide)) rest
  · refine agree_onlyStr (fun path => Action.openDirFor path none) ?_ rest
    rw [run_openDirFor_none, run_openDirFor_none]
    exact agree_openDir h (by decide)
  · exact agree_onlyStr _ (agree_entries h) rest
  · cases rest with
    | nil => exact agree_chdir h
    | cons v rest => exact agree_of_error (.same _)
  · exact agree_onlyStr _ (agree_rmdir h) rest
  · rcases rest with _ | ⟨mode, _ | ⟨v, rest⟩⟩
    · exact agree_mkdir h
    · exact agree_mkdir h
    · exact agree_of_error (.same _)

/-! ### The home directory -/

lemma home_eq {before after : List String} {key dir : String}
    (hvars : m.config.homeVars = before ++ key :: after)
    (hbefore : ∀ name ∈ before, (m.environment.vars.find? name).getD "" = "")
    (hkey : m.environment.vars.find? key = some dir) (hdir : dir ≠ "") : m.home = .ok dir := by
  -- the variables before it are not set or empty
  have hskip : (before.filterMap fun name => m.environment.vars.find? name).find? (· ≠ "") =
      none := by
    rw [List.find?_eq_none]
    intro value hvalue
    obtain ⟨name, hname, hset⟩ := List.mem_filterMap.mp hvalue
    have hempty := hbefore name hname
    rw [hset] at hempty
    simpa using hempty
  have hfirst : (m.config.homeVars.filterMap fun name => m.environment.vars.find? name).find?
      (· ≠ "") = some dir := by
    rw [hvars, List.filterMap_append, List.filterMap_cons_some hkey, List.find?_append, hskip,
      Option.none_or]
    exact List.find?_cons_of_pos (by simpa using hdir)
  simp only [home, hfirst]

/-- **The current directory is seen through paths only.** Let two machines differ in the directory
they are in, and let two paths lead to the same place, each from the directory of its machine. Then
a function on a path, called without a block, ends in the same way on both: with the same answer, or
with the same error but for the path in its text. It leaves the same machine, but for the path of a
directory that it opened, and goes to the same place if it is `chdir` and succeeds. So with an
absolute path no function depends on the current directory; and `chdir` without a path does, with a
block or without, what it does with the first home directory that is set and not empty. By which
names these functions are called is said by `Machine.run_call_start`. -/
theorem agree_of_resolve_eq (m : Machine E) :
    (∀ c₁ c₂ p₁ p₂, Path.resolve c₁ p₁ = Path.resolve c₂ p₂ → ∀ f ∈ DirFunction.onPaths, ∀ rest,
      Agree m f c₁ p₁ c₂ p₂ ((m.inDir c₁).run (Action.standard (.str p₁ :: rest) none f))
        ((m.inDir c₂).run (Action.standard (.str p₂ :: rest) none f))) ∧
    (∀ path, Path.isAbsolute path → ∀ f ∈ DirFunction.onPaths, ∀ rest c₁ c₂,
      let ended := (m.inDir c₁).run (Action.standard (.str path :: rest) none f)
      (m.inDir c₂).run (Action.standard (.str path :: rest) none f) = (ended.1,
        if f = .chdir ∧ ended.1.isOk then ended.2 else ended.2.inDir c₂)) ∧
    ∀ before key after dir, m.config.homeVars = before ++ key :: after →
      (∀ name ∈ before, (m.environment.vars.find? name).getD "" = "") →
      m.environment.vars.find? key = some dir → dir ≠ "" → ∀ block,
        m.run (Action.standard [] block .chdir) =
          m.run (Action.standard [.str dir] block .chdir) := by
  refine ⟨fun c₁ c₂ p₁ p₂ h f hf rest => agree_standard h hf rest, ?_, ?_⟩
  · intro path hpath f hf rest c₁ c₂ ended
    have hresolve : Path.resolve c₁ path = Path.resolve c₂ path := by
      rw [Path.resolve_absolute hpath, Path.resolve_absolute hpath]
    exact (agree_standard hresolve hf rest).eq
  · intro before key after dir hvars hbefore hkey hdir block
    rw [run_chdir, run_chdir, destination, home_eq hvars hbefore hkey hdir]
    rfl

/-- A machine with a directory in another one, and the second home directory set. -/
def nested : Machine (Script.scene Catalog) :=
  start {} { Catalog.empty with dirs := [("/a", ["b"]), ("/a/b", ["x"])] }
    ⟨[("HOME", ""), ("LOGDIR", "/a")], none⟩ .empty

/-- A directory that is not empty is not removed, from the root or from the directory that it is in,
and each error quotes its own path. From the root and from that directory `chdir` goes the same way
to an absolute path, and without a path it goes home. -/
theorem agree_of_resolve_eq_nested :
    let removed (dir path : String) :=
      (nested.inDir dir).run (Action.standard [.str path] none .rmdir)
    let gone (dir : String) := (nested.inDir dir).run (Action.standard [.str "/a"] none .chdir)
    Path.resolve "/a" "b" = Path.resolve "/" "a/b" ∧
      Agree nested .rmdir "/a" "b" "/" "a/b" (removed "/a" "b") (removed "/" "a/b") ∧
      (removed "/a" "b").1 = .error (.systemCall "Directory not empty - b") ∧
      (removed "/" "a/b").1 = .error (.systemCall "Directory not empty - a/b") ∧
      gone "/" = gone "/a/b" ∧ (gone "/").2.currentDir = "/a" ∧
      nested.run (Action.standard [] none .chdir) =
        nested.run (Action.standard [.str "/a"] none .chdir) := by
  obtain ⟨hagree, habsolute, hhome⟩ := agree_of_resolve_eq nested
  have hresolve : Path.resolve "/a" "b" = Path.resolve "/" "a/b" := by decide +kernel
  refine ⟨hresolve, hagree _ _ _ _ hresolve .rmdir (by decide) [], by cbv, by cbv, ?_, by cbv, ?_⟩
  · have hgone := habsolute "/a" (by decide) .chdir (by decide) [] "/" "/a/b"
    have hok : ((nested.inDir "/").run (Action.standard [.str "/a"] none .chdir)).1.isOk := by
      decide +kernel
    dsimp only at hgone
    rw [if_pos (And.intro rfl hok)] at hgone
    exact hgone.symm
  · have hunset : ∀ name ∈ ["HOME"], (nested.environment.vars.find? name).getD "" = "" := by decide
    exact hhome ["HOME"] "LOGDIR" [] "/a" rfl hunset rfl (by decide) none

end Machine

end Dirlang
