import Mathlib
import Dirlang.Proofs.Machine.CurrentDir
import Dirlang.Proofs.Path.Resolving

/-!
Where the machine can be.

From an absolute directory the machine only goes to absolute ones, whatever paths it is asked for:
a relative one is joined to the current directory first. What has to be trusted is the file system,
when it tells the real name of an absolute path, and who runs code in a directory of their choice.
-/

namespace Dirlang

variable {E : Embedding} {m : Machine E} {α β : Type}

/-- The real name of an absolute path is absolute, if the file system has one. -/
structure FileSystem.Rooted {F : Type} [FileSystem F] (files : F) : Prop where
  real {path real : String} :
    Path.isAbsolute path → canonicalize files path = .ok real → Path.isAbsolute real

lemma Catalog.rooted {c : Catalog} (h : c.canonical.all fun (_, real) => Path.isAbsolute real) :
    FileSystem.Rooted c := by
  refine ⟨fun {path real} hpath hreal => ?_⟩
  change unlessSet c.failures.canonicalize path _ = .ok real at hreal
  unfold unlessSet at hreal
  split at hreal
  · cases hreal
  · obtain rfl := Except.ok.inj hreal
    rcases hfind : c.canonical.find? path with _ | real
    · exact hpath
    · obtain ⟨before, after, hsplit, -⟩ := List.lookup_eq_some_iff.mp hfind
      exact List.all_eq_true.mp h (path, real) (by simp [hsplit])

/-- No code runs in a directory that is not given by an absolute path. -/
def Label.Rooted : Label E → Prop
  | .call (.within dir) _ => Path.isAbsolute dir
  | _ => True

/-- The files are rooted whenever something happens, and so are the parts. -/
def Trace.Rooted : Machine E → Trace E → Prop
  | _, nil => True
  | m, event e rest => FileSystem.Rooted m.files ∧ rest.Rooted (m.after e)
  | m, part label _ inside rest =>
    label.Rooted ∧ inside.Rooted m ∧ rest.Rooted (m.afterAll inside.events)

lemma Trace.rooted_append {t u : Trace E} :
    (t ++ u).Rooted m ↔ t.Rooted m ∧ u.Rooted (m.afterAll t.events) := by
  induction t generalizing m with
  | nil => simp [Rooted]
  | event e t ih => simp [Rooted, ih, and_assoc]
  | part label outcome inside t _ ih => simp [Rooted, ih, and_assoc]

/-- Wherever the events lead, it is to an absolute path. -/
def StaysRooted (es : List (Event E)) : Prop :=
  ∀ e ∈ es, ∀ dir, e.target? = some dir → Path.isAbsolute dir

lemma staysRooted_append {es more : List (Event E)} :
    StaysRooted (es ++ more) ↔ StaysRooted es ∧ StaysRooted more := by
  simp only [StaysRooted, List.forall_mem_append]

lemma staysRooted_goTo {dir : String} :
    StaysRooted [(.goTo dir : Event E)] ↔ Path.isAbsolute dir := by
  simp [StaysRooted, Event.target?]

namespace Machine

lemma isAbsolute_after (hm : Path.isAbsolute m.currentDir) {e : Event E}
    (he : ∀ dir, e.target? = some dir → Path.isAbsolute dir) :
    Path.isAbsolute (m.after e).currentDir := by
  rw [currentDir_after]
  rcases htarget : e.target? with _ | dir
  · exact hm
  · exact he dir htarget

lemma isAbsolute_afterAll (hm : Path.isAbsolute m.currentDir) {es : List (Event E)}
    (hes : StaysRooted es) : Path.isAbsolute (m.afterAll es).currentDir := by
  induction es generalizing m with
  | nil => exact hm
  | cons e es ih =>
    obtain ⟨he, hrest⟩ := List.forall_mem_cons.mp hes
    exact ih (isAbsolute_after hm he) hrest

lemma isAbsolute_real (hm : Path.isAbsolute m.currentDir) (hfiles : FileSystem.Rooted m.files)
    (path : String) : Path.isAbsolute (m.real path) := by
  have hpath : Path.isAbsolute (m.resolve path) := (Path.isAbsolute_resolve _ path).mpr (.inl hm)
  unfold real
  split
  · next real hreal => exact hfiles.real hpath hreal
  · exact hpath

end Machine

/-- On rooted files a trace from an absolute directory only leads to absolute ones. -/
def KeepsRooted (m : Machine E) (t : Trace E) : Prop :=
  t.Rooted m → Path.isAbsolute m.currentDir → StaysRooted t.events

lemma keepsRooted_composes : Trace.Composes (E := E) KeepsRooted where
  nil _ _ _ := nofun
  append {m t u} ht hu hrooted hm := by
    obtain ⟨hfirst, hrest⟩ := Trace.rooted_append.mp hrooted
    have hstays := ht hfirst hm
    rw [Trace.events_append, staysRooted_append]
    exact ⟨hstays, hu hrest (Machine.isAbsolute_afterAll hm hstays)⟩

/-! ### Calls -/

namespace Traced

variable {dir : String}

abbrev Keeps (x : Traced E α) : Prop := Leaves KeepsRooted x

lemma keeps_perform {e : Event E} (he : e.target? = none) : Keeps (perform e : Traced E Unit) := by
  intro m _ _
  change StaysRooted [e]
  simp [StaysRooted, he]

lemma keepsRooted_within {x : Traced E Value}
    (hdir : FileSystem.Rooted m.files → Path.isAbsolute m.currentDir → Path.isAbsolute dir)
    (hx : Keeps x) : KeepsRooted m ((Action.within dir x) m).2 := by
  intro hrooted hm
  rw [apply_within] at hrooted ⊢
  obtain ⟨hfiles, hinside⟩ := hrooted
  -- there, what is done there, and back
  have hthere : Path.isAbsolute (m.inDir dir).currentDir := hdir hfiles hm
  have hstays := hx (m.inDir dir) (Trace.rooted_append.mp hinside).1 hthere
  have hgo : StaysRooted [(.goTo dir : Event E)] := staysRooted_goTo.mpr (hdir hfiles hm)
  have hback : StaysRooted [(.goTo m.currentDir : Event E)] := staysRooted_goTo.mpr hm
  have hevents := staysRooted_append.mpr ⟨hgo, staysRooted_append.mpr ⟨hstays, hback⟩⟩
  simpa using hevents

variable {block : Option (Block (Traced E))}

abbrev KeepsBlock (block : Option (Block (Traced E))) : Prop := ∀ b ∈ block, ∀ args, Keeps (b args)

lemma keeps_part {label : Label E} {x : Traced E Value} (hx : Keeps x) : Keeps (part label x) := by
  intro m hrooted hm
  rw [apply_part] at hrooted ⊢
  simpa using hx m hrooted.2.1 hm

lemma keeps_chdir (hblock : KeepsBlock block) (args : List Value) :
    Keeps (Action.standard args (block.map Block.told) .chdir : Traced E Value) := by
  intro m
  rw [apply_chdir]
  rcases m.destination args with e | path
  · exact keepsRooted_composes.nil m
  dsimp only
  rw [apply_chdir_of_path]
  split
  · cases block with
    | none =>
      intro hrooted hm
      exact staysRooted_goTo.mpr (Machine.isAbsolute_real hm hrooted.1 path)
    | some b =>
      refine keepsRooted_within (fun hfiles hm => Machine.isAbsolute_real hm hfiles path) ?_
      exact keeps_part (hblock b rfl _)
  · exact keepsRooted_composes.nil m

lemma keeps_call (hblock : KeepsBlock block) (c : Call E) :
    Keeps (part (.call c block.isSome) (c.code (block.map Block.told))) := by
  by_cases hc : c.Goes
  · cases c with
    | function f args =>
      obtain rfl : f = .chdir := by cases f <;> first | rfl | exact hc.elim
      exact keeps_part (keeps_chdir hblock args)
    | within dir =>
      intro m hrooted hm
      rw [apply_part] at hrooted ⊢
      have hdir : Path.isAbsolute dir := hrooted.1
      rw [Trace.events_part, Trace.events_nil, List.append_nil]
      refine keepsRooted_within (fun _ _ => hdir) ?_ hrooted.2.1 hm
      cases block with
      | none => exact leaves_pure keepsRooted_composes _
      | some b => exact keeps_part (hblock b rfl _)
    | _ => exact hc.elim
  · exact keeps_part (leaves_code_of_not_goes keepsRooted_composes (fun _ => keeps_perform)
      (fun b hb args => keeps_part (hblock b hb args)) hc)

/-- Programs keep to absolute paths. -/
lemma keeps_run (p : Program E) : Keeps p.run :=
  Program.leaves_run ⟨fun _ => keepsRooted_composes, fun _ c _ hblock => keeps_call hblock c⟩ p none

end Traced

namespace Machine

/-- **Where a machine can be.** Joining paths is associative; the result is absolute just when one
of the parts is; an absolute path stands for itself, and so does any path behind the empty one.
Hence a program that starts in an absolute directory is in one after each of its events, whatever it
calls with whatever blocks, if it runs code in absolute directories only where it says in which, and
if the file system tells no real names but absolute ones for absolute paths. -/
theorem rooted_afterAll :
    (∀ a b c, Path.resolve (Path.resolve a b) c = Path.resolve a (Path.resolve b c)) ∧
    (∀ a b, Path.isAbsolute (Path.resolve a b) ↔ Path.isAbsolute a ∨ Path.isAbsolute b) ∧
    (∀ a b, Path.isAbsolute b → Path.resolve a b = b) ∧
    (∀ b, Path.resolve "" b = b) ∧
    ∀ (m : Machine E) (p : Program E), Path.isAbsolute m.currentDir →
      ((p.run : Traced E Value) m).2.Rooted m →
      m.run p.run = (((p.run : Traced E Value) m).1,
        m.afterAll ((p.run : Traced E Value) m).2.events) ∧
      ∀ es, es <+: ((p.run : Traced E Value) m).2.events →
        Path.isAbsolute (m.afterAll es).currentDir := by
  refine ⟨Path.resolve_resolve, Path.isAbsolute_resolve,
    fun a _ hb => Path.resolve_absolute hb a, Path.resolve_empty, fun m p hm hrooted => ⟨?_, ?_⟩⟩
  · rw [← Program.act_run p, Traced.run_act]
  · rintro es ⟨more, hes⟩
    have hstays := Traced.keeps_run p m hrooted hm
    rw [← hes, staysRooted_append] at hstays
    exact isAbsolute_afterAll hm hstays.1

/-- A machine with a link from `/a/b` to `/c`, where nothing is known of the real name of `/c/d`. -/
def linked : Machine (Script.scene Catalog) :=
  start { startDir := some "/" }
    { Catalog.empty with
      dirs := [("/a", ["b"]), ("/a/b", []), ("/c/d", [])]
      canonical := [("/a/b", "/c")]
      failures := { Catalog.empty.failures with canonicalize := [("/c/d", "no name")] } }
    ⟨[], none⟩ .empty

/-- Goes along the link for a block that goes on from there, makes a directory and fails, all of it
inside of code that runs in another directory; then somewhere for good. -/
def roaming : Program (Script.scene Catalog) :=
  .call (.within "/a")
    (some fun _ =>
      .call (.function .chdir [.str "b"])
        (some fun _ =>
          .call (.function .chdir [.str "d"]) none fun _ =>
          .call (.function .mkdir [.str "e"]) none fun _ =>
          .call (.function .chdir [.str "/e"]) none .done) .done) fun _ =>
  .call (.function .chdir [.str "a"]) none .done

/-- What the program leaves behind. -/
def roamed : Except Error Value × Trace (Script.scene Catalog) :=
  (roaming.run : Traced (Script.scene Catalog) Value) linked

/-- Without a real name the path is where the machine is, and it is absolute all the same. -/
theorem rooted_afterAll_roaming :
    Path.isAbsolute linked.currentDir ∧ roamed.2.Rooted linked ∧
      Path.isAbsolute (linked.afterAll (roamed.2.events.take 3)).currentDir ∧
      (linked.afterAll (roamed.2.events.take 3)).currentDir = "/c/d" ∧
      (linked.run roaming.run).2.currentDir = "/a" := by
  have hstart : Path.isAbsolute linked.currentDir := by decide
  have hrooted : roamed.2.Rooted linked := by
    cbv
    and_intros
    all_goals first | trivial | (refine Catalog.rooted ?_; decide +kernel)
  obtain ⟨hrun, hall⟩ := rooted_afterAll.2.2.2.2 linked roaming hstart
    (by unfold roamed at hrooted; exact hrooted)
  refine ⟨hstart, hrooted, hall _ (List.take_prefix _ _), by decide +kernel, ?_⟩
  rw [hrun]
  decide +kernel

end Machine

end Dirlang
