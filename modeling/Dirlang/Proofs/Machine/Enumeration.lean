import Mathlib
import Dirlang.Proofs.Machine.Methods
import Dirlang.Proofs.Machine.ScopedOpen

/-!
The ways to enumerate a directory.

Some list its names at once, some hand them to a block, and some open the directory and read it.
The names are taken down at two places, for a list and for an open directory; they are the same
names in the same order.
-/

namespace Dirlang

variable {E : Embedding} {m m' : Machine E} {r : Ref} {d : Dir} {path : String}

namespace Machine

/-- The names in the directory at a path: the dot entries, and what the file system lists, if it
does. -/
def namesAt (m : Machine E) (path : String) : List String :=
  match FileSystem.list m.files (m.resolve path) with
  | .ok names => "." :: ".." :: names
  | .error _ => [".", ".."]

lemma withDots_listing (m : Machine E) (path : String) :
    Dir.withDots (Dir.listing m.files (m.resolve path)) = m.namesAt path := by
  unfold Dir.listing namesAt
  cases FileSystem.list m.files (m.resolve path) <;> rfl

/-- Reading `v` again and again answers the names in turn, and then nil. -/
inductive Reads (v : Value) : Machine E → List String → Prop
  | done {m m' : Machine E} (h : m.run (Action.callMethod v "read" [] none) = (.ok .nil, m')) :
    Reads v m []
  | name {m m' : Machine E} {name : String} {names : List String}
    (h : m.run (Action.callMethod v "read" [] none) = (.ok (.str name), m'))
    (hrest : Reads v m' names) : Reads v m (name :: names)

/-- The outcome is a list of the names. -/
def Lists (names : List String) (ended : Except Error Value × Machine E) : Prop :=
  ∃ r, ended.1 = .ok (.list r) ∧ ended.2.store.strings (.list r) = .ok names

/-! ### Lists -/

lemma mapM_expectStr (names : List String) :
    (names.map Value.str).mapM Value.expectStr = .ok names := by
  induction names with
  | nil => rfl
  | cons name names ih =>
    rw [List.map_cons, List.mapM_cons, ih]
    rfl

lemma run_newStrings (m : Machine E) (names : List String) :
    m.run (Action.newStrings names) =
      (.ok (.list m.store.next), m.after (.alloc (.list (names.map .str)))) := by
  rw [← Store.alloc_fst m.store (.list (names.map .str))]
  rfl

lemma strings_after_alloc (h : m.store.Consistent) (names : List String) :
    (m.after (.alloc (.list (names.map .str)))).store.strings (.list m.store.next) = .ok names := by
  have hitems : (m.store.alloc (.list (names.map .str))).2.items (.list m.store.next) =
      .ok (names.map .str) := by
    simp [Store.items, Store.get?_alloc h]
  change (m.store.alloc (.list (names.map .str))).2.strings (.list m.store.next) = _
  rw [Store.strings, hitems]
  exact mapM_expectStr names

lemma lists_newStrings (h : m.store.Consistent) (names : List String) :
    Lists names (m.run (Action.newStrings names)) := by
  rw [run_newStrings]
  exact ⟨m.store.next, rfl, strings_after_alloc h names⟩

lemma lists_entries (h : m.store.Consistent)
    (hdir : FileSystem.isDir m.files (m.resolve path)) (block : Option (Block (Action E))) :
    Lists (m.namesAt path) (m.run (Action.standard [.str path] block .entries)) := by
  have hrun : m.run (Action.standard [.str path] block .entries) =
      m.run (Action.newStrings (m.namesAt path)) := by
    have hentries : Dir.entriesAt m.files m.currentDir path = .ok (m.namesAt path) := by
      rw [← withDots_listing]
      exact if_pos hdir
    change m.run (liftM (Dir.entriesAt m.files m.currentDir path) >>= Action.newStrings) = _
    rw [hentries]
    rfl
  rw [hrun]
  exact lists_newStrings h _

lemma lists_method_entries (h : m.store.Consistent) (hd : m.store.get? r = some (.dir d))
    (block : Option (Block (Action E))) :
    Lists d.names (m.run (Action.callMethod (.dir r) "entries" [] block)) := by
  have hdir : m.store.dir (.dir r) = .ok d := by simp [Store.dir, hd]
  have hrun : m.run (Action.callMethod (.dir r) "entries" [] block) =
      m.run (Action.newStrings d.names) := by
    change m.run (Action.dir (.dir r) >>= fun d => Action.newStrings d.names) = _
    rw [run_bind, run_dir, hdir]
  rw [hrun]
  exact lists_newStrings h _

/-! ### Reading -/

lemma get?_opened (h : m.store.Consistent) (path : String) :
    (m.opened path).store.get? m.store.next =
      some (.dir ⟨path, m.namesAt path, 0, true⟩) := by
  rw [← withDots_listing]
  exact (Store.get?_alloc h _ _).trans (if_pos rfl)

lemma run_read (hd : m.store.get? r = some (.dir d)) {name : Option String} {d' : Dir}
    (hread : d.read = .ok (name, d')) :
    m.run (Action.callMethod (.dir r) "read" [] none) =
      (.ok ((name.map Value.str).getD .nil), m.after (.change (.dir r) fun _ => d')) := by
  have hdir : m.store.dir (.dir r) = .ok d := by simp [Store.dir, hd]
  change m.run (Action.dir (.dir r) >>= fun d => liftM d.read >>= fun ended =>
    Action.updateDir (.dir r) (fun _ => ended.2) >>= fun _ =>
      pure ((ended.1.map Value.str).getD .nil)) = _
  rw [run_bind, run_dir, hdir]
  dsimp only
  rw [hread, run_bind, run_lift]
  dsimp only
  rw [run_bind, run_updateDir, hdir]
  rfl

/-- Reading from any name on. -/
lemma reads_drop (hd : m.store.get? r = some (.dir d)) (hopen : d.isOpen)
    (hlen : d.names.length < 2 ^ 60) {i : ℕ} (hpos : d.pos.toInt = i) (hi : i ≤ d.names.length) :
    Reads (.dir r) m (d.names.drop i) := by
  obtain ⟨n, hn⟩ := Nat.exists_eq_add_of_le hi
  -- on the names that are left to read
  induction n generalizing m d i with
  | zero =>
    have hread : d.read = .ok (none, d) := by
      simp [Dir.read, hopen, Dir.current?_of_outside (by omega : ¬ (0 ≤ d.pos.toInt ∧ _))]
    rw [List.drop_of_length_le (by omega)]
    exact .done (run_read hd hread)
  | succ n ih =>
    have hlt : i < d.names.length := by omega
    have hread : d.read = .ok (some d.names[i], d.seek (d.pos + 1)) := by
      simp [Dir.read, hopen, Dir.current?_of_lt hpos hlt]
    rw [List.drop_eq_getElem_cons hlt]
    refine .name (run_read hd hread) (ih (d := d.seek (d.pos + 1)) ?_ hopen hlen ?_ hlt ?_)
    · simp [after, Store.updateDir, Store.get?_update, hd]
    · exact Dir.toInt_add_one hpos hlt hlen
    · simp only [Dir.seek]
      omega

end Machine

/-! ### Visiting -/

namespace Traced

open Machine

/-- The names that the invocations of a block were given. -/
def Hands (names : List String) (ended : Except Error Value × Trace E) : Prop :=
  (∃ w, ended.1 = .ok w) ∧ ended.2.invocations.map Prod.fst = names.map ([.str ·])

variable {b : Block (Traced E)} (hb : b.Succeeds)

lemma apply_openDir (hdir : FileSystem.isDir m.files (m.resolve path)) :
    (Action.openDir path : Traced E Value) m =
      (.ok (.dir m.store.next),
        .event (.alloc (.dir (.ofListing path (Dir.listing m.files (m.resolve path))))) .nil) := by
  have hopen : Dir.openAt m.files m.currentDir path =
      .ok (.ofListing path (Dir.listing m.files (m.resolve path))) := if_pos hdir
  rw [Action.openDir, apply_bind_of_ok (a := m) (t := .nil) rfl]
  dsimp only [andThen, Trace.events_nil, Machine.afterAll_nil]
  rw [hopen, ← Store.alloc_fst]
  rfl

lemma hands_andThen {names : List String} {t : Trace E} {x : Traced E Value}
    (ht : t.invocations = []) (hx : Hands names (x (m.afterAll t.events))) :
    Hands names (andThen m t x) := by
  refine ⟨hx.1, ?_⟩
  rw [andThen, Trace.invocations_append, ht]
  exact hx.2

lemma hands_attempt_bind {names : List String} {x : Traced E Value}
    {f : Except Error Value → Traced E Value} (hx : Hands names (x m))
    (hf : ∀ w m, (∃ w', (f (.ok w) m).1 = .ok w') ∧ (f (.ok w) m).2.invocations = []) :
    Hands names ((Action.attempt x >>= f) m) := by
  obtain ⟨⟨w, hw⟩, hcalls⟩ := hx
  obtain ⟨hended, hsilent⟩ := hf w (m.afterAll (x m).2.events)
  rw [apply_bind_of_ok (apply_attempt x m), hw]
  refine ⟨hended, ?_⟩
  rw [andThen, Trace.invocations_append, hsilent, List.append_nil]
  exact hcalls

include hb

lemma hands_each (hd : m.store.get? r = some (.dir d)) :
    Hands d.names ((Action.callMethod (.dir r) "each" [] (some b.told) : Traced E Value) m) := by
  change Hands d.names ((Action.method (.dir r) [] (some b.told) .each : Traced E Value) m)
  obtain ⟨houtcome, hcalls⟩ := apply_forM_of_succeeds hb d.names m
  rw [apply_each hd, apply_bind_pure]
  refine ⟨⟨.dir r, ?_⟩, hcalls⟩
  have hended : ((Action.eachName d b.told : Traced E Unit) m).1 = .ok () := houtcome
  rw [hended]
  rfl

lemma hands_foreach (hm : m.store.Consistent)
    (hdir : FileSystem.isDir m.files (m.resolve path)) :
    Hands (m.namesAt path)
      ((Action.standard [.str path] (some b.told) .foreach : Traced E Value) m) := by
  change Hands _ ((Action.foreach path (some b.told) : Traced E Value) m)
  rw [Action.foreach, apply_bind_of_ok (apply_openDir hdir)]
  refine hands_andThen rfl (hands_attempt_bind (hands_each hb (get?_opened hm path)) ?_)
  exact fun w m' => ⟨⟨.nil, rfl⟩, rfl⟩

end Traced

namespace Machine

/-- All ways to enumerate the directory at the path answer the names. -/
structure Enumerates (m : Machine E) (path : String) (names : List String) : Prop where
  entries (block : Option (Block (Action E))) :
    Lists names (m.run (Action.standard [.str path] block .entries))
  new (block : Option (Block (Action E))) :
    m.run (Action.standard [.str path] block .newDir) = (.ok (.dir m.store.next), m.opened path)
  new_entries (block : Option (Block (Action E))) :
    Lists names ((m.opened path).run (Action.callMethod (.dir m.store.next) "entries" [] block))
  /-- No host lists as many names as the cursor cannot count. -/
  new_read : names.length < 2 ^ 60 → Reads (.dir m.store.next) (m.opened path) names
  new_each (b : Block (Traced E)) : b.Succeeds → Traced.Hands names
    ((Action.callMethod (.dir m.store.next) "each" [] (some b.told) : Traced E Value)
      (m.opened path))
  foreach (b : Block (Traced E)) : b.Succeeds → Traced.Hands names
    ((Action.standard [.str path] (some b.told) .foreach : Traced E Value) m)
  /-- The block starts where `new` ends, and gets the same value. -/
  openDir (b : Block (Action E)) : m.run (Action.standard [.str path] (some b) .openDir) =
    closing m.store.next ((m.opened path).run (b [.dir m.store.next]))

lemma run_newDir (hdir : FileSystem.isDir m.files (m.resolve path))
    (block : Option (Block (Action E))) :
    m.run (Action.standard [.str path] block .newDir) =
      (.ok (.dir m.store.next), m.opened path) := by
  change m.run (Action.openDir path) = _
  rw [run_openDir, if_pos hdir]

lemma run_of_not_dir (hdir : ¬ FileSystem.isDir m.files (m.resolve path))
    (block : Option (Block (Action E))) {f : DirFunction}
    (hf : f ∈ [DirFunction.entries, .newDir, .foreach, .openDir]) :
    ∃ what, m.run (Action.standard [.str path] block f) = (.error (.notFound what), m) := by
  have hopen : m.run (Action.openDir path) = (.error (.notADirectory path), m) := by
    rw [run_openDir, if_neg hdir]
  have hentries : Dir.entriesAt m.files m.currentDir path = .error .noSuchDirectory := if_neg hdir
  simp only [List.mem_cons, List.not_mem_nil, or_false] at hf
  rcases hf with rfl | rfl | rfl | rfl
  · refine ⟨"No such directory", ?_⟩
    change m.run (liftM (Dir.entriesAt m.files m.currentDir path) >>= Action.newStrings) = _
    rw [hentries]
    rfl
  · exact ⟨_, hopen⟩
  · exact ⟨_, run_bind_of_error hopen _⟩
  · exact ⟨_, run_bind_of_error hopen _⟩

/-- **All enumerations agree.** Whatever is at a path: if it is a directory, then all ways to
enumerate it answer the same names, and these are the dot entries and what the file system lists,
or the dot entries alone if the listing fails; if it is none, then all of them fail as nothing is
found there, and change nothing. -/
theorem enumerations_agree (hm : m.Reachable) (path : String) :
    (FileSystem.isDir m.files (m.resolve path) → m.Enumerates path
      (match FileSystem.list m.files (m.resolve path) with
        | .ok names => "." :: ".." :: names
        | .error _ => [".", ".."])) ∧
    (¬ FileSystem.isDir m.files (m.resolve path) →
      ∀ f ∈ [DirFunction.entries, .newDir, .foreach, .openDir], ∀ block, ∃ what,
        m.run (Action.standard [.str path] block f) = (.error (.notFound what), m)) := by
  have hopened := get?_opened hm.consistent path
  have hconsistent := consistent_opened hm.consistent path
  refine ⟨fun hdir => ?_, fun hdir f hf block => run_of_not_dir hdir block hf⟩
  change m.Enumerates path (m.namesAt path)
  exact {
    entries := lists_entries hm.consistent hdir
    new := run_newDir hdir
    new_entries := lists_method_entries hconsistent hopened
    new_read := fun hlen => reads_drop hopened rfl hlen rfl (Nat.zero_le _)
    new_each := fun b hb => Traced.hands_each hb hopened
    foreach := fun b hb => Traced.hands_foreach hb hm.consistent hdir
    openDir := run_openDirFor hdir }

/-- A machine whose files are a single directory with two names. -/
def twoNames : Machine (Script.scene Catalog) :=
  start {} { Catalog.empty with dirs := [("/", ["b", "a"])] } ⟨[], none⟩ .empty

/-- The names come in the order of the host, and what is no directory is not found. -/
theorem enumerations_agree_two_names :
    twoNames.Reachable ∧ twoNames.Enumerates "/" [".", "..", "b", "a"] ∧
      ∃ what, twoNames.run (Action.standard [.str "/b"] none .newDir) =
        (.error (.notFound what), twoNames) := by
  have hm : twoNames.Reachable := ⟨_, _, _, _, [], rfl⟩
  refine ⟨hm, (enumerations_agree hm "/").1 (by decide), ?_⟩
  exact (enumerations_agree hm "/b").2 (by decide) .newDir (by simp) none

end Machine

end Dirlang
