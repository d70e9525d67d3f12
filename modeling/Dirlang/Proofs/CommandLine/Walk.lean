import Mathlib
import Dirlang.Proofs.CommandLine.Arguments
import Dirlang.Proofs.Machine.Enumeration
import Dirlang.Proofs.Machine.Observed
import Dirlang.Proofs.Table

/-!
Walking a directory.

A walk reads until nothing more is found. That is not bounded by itself: it takes one read for each
name that the cursor can count, and one more. The bound of its definition is never reached.
-/

namespace Dirlang

namespace Dir

variable {d : Dir} {i : ℕ}

/-- The names that the cursor can count: it holds no position of `2 ^ 63` or more. -/
def countable (d : Dir) : List String := d.names.take (2 ^ 63)

lemma length_countable_le (d : Dir) : d.countable.length ≤ 2 ^ 63 :=
  List.length_take_le _ _

lemma current?_ofNat (hpos : d.pos = Int64.ofNat i) (hi : i ≤ 2 ^ 63) :
    d.current? = d.countable[i]? := by
  rw [current?_eq, hpos, countable, List.getElem?_take]
  rcases hi.lt_or_eq with hlt | rfl
  · rw [Int64.toInt_ofNat_of_lt hlt, if_pos hlt, if_pos (Int.natCast_nonneg i), Int.toNat_natCast]
  · rw [if_neg (lt_irrefl _), if_neg (by decide)]

lemma read_ofNat (hopen : d.isOpen) (hpos : d.pos = Int64.ofNat i) (hi : i ≤ 2 ^ 63) :
    d.read = match d.countable[i]? with
      | some name => .ok (some name, d.seek (d.pos + 1))
      | none => .ok (none, d) := by
  rw [← current?_ofNat hpos hi, read, hopen]
  cases d.current? <;> rfl

end Dir

namespace CommandLine

variable {F : Type} [FileSystem F] {m m' : Machine (host F)} {v : Value} {r : Ref} {d : Dir}
  {dir : String} {lines : List String} {reads : ℕ}

/-- Reading on until nothing more is found, with a line for each name: the cursor before it was
read, and the name. -/
inductive ReadsLines (v : Value) :
    Machine (host F) → List String → ℕ → Machine (host F) → Prop
  | done {m m' : Machine (host F)} {d : Dir} (hd : m.store.dir v = .ok d)
    (hread : m.run (Action.callMethod v "read" [] none) = (.ok .nil, m')) :
    ReadsLines v m [] 1 m'
  | line {m m' m'' : Machine (host F)} {d : Dir} {name : Value} {text : String}
    {lines : List String} {reads : ℕ} (hd : m.store.dir v = .ok d)
    (hread : m.run (Action.callMethod v "read" [] none) = (.ok name, m')) (hname : name ≠ .nil)
    (htext : m'.store.text? name = some text) (hrest : ReadsLines v m' lines reads m'') :
    ReadsLines v m ((toString d.pos.toInt ++ "\t" ++ text) :: lines) (reads + 1) m''

/-- All is read and the directory is closed, and nothing fails. -/
def Completes (v : Value) (m : Machine (host F)) (lines : List String) (reads : ℕ) : Prop :=
  ∃ m' w m'', ReadsLines v m lines reads m' ∧
    m'.run (Action.callMethod v "close" [] none) = (.ok w, m'')

lemma readLines_eq (h : ReadsLines v m lines reads m') {fuel : ℕ} (hfuel : reads ≤ fuel) :
    readLines v fuel m = ((lines, none), m') := by
  -- each read that there is takes one from the bound
  induction h generalizing fuel with
  | done hd hread =>
    obtain ⟨fuel, rfl⟩ := Nat.exists_eq_add_of_le' hfuel
    simp [readLines, hd, hread]
  | @line _ _ _ d name text _ _ hd hread hname htext _ ih =>
    obtain ⟨fuel, rfl⟩ : ∃ n, fuel = n + 1 := ⟨fuel - 1, by omega⟩
    have hrest := ih (Nat.le_of_succ_le_succ hfuel)
    rw [readLines, hd]
    dsimp only
    rw [hread]
    cases name with
    | nil => exact absurd rfl hname
    | _ => simp [hrest, htext]

/-! ### Lines -/

/-- Names with their positions, which begin with `start`. -/
def numbered (start : ℕ) : List String → List String
  | [] => []
  | name :: names => (toString start ++ "\t" ++ name) :: numbered (start + 1) names

lemma readsLines_drop (hd : m.store.get? r = some (.dir d)) (hopen : d.isOpen) {i n : ℕ}
    (hpos : d.pos = Int64.ofNat i) (hn : d.countable.length = i + n) :
    ∃ m', ReadsLines (.dir r) m (numbered i (d.countable.drop i)) (n + 1) m' ∧
      m'.store.Live (.dir r) := by
  have hcount := d.length_countable_le
  have hdir : m.store.dir (.dir r) = .ok d := by simp [Store.dir, hd]
  -- on the names that are left; the cursor counts those that are done, and may run over after these
  induction n generalizing m d i with
  | zero =>
    rw [Nat.add_zero] at hn
    have hread := Dir.read_ofNat hopen hpos (by omega)
    rw [List.getElem?_eq_none hn.le] at hread
    rw [List.drop_of_length_le hn.le]
    refine ⟨_, .done hdir (Machine.run_read hd hread), ?_⟩
    exact (Store.live_updateDir _ _).mpr (Store.live_dir_iff.mpr ⟨d, hd⟩)
  | succ n ih =>
    have hlt : i < d.countable.length := by omega
    have hread := Dir.read_ofNat hopen hpos (by omega)
    rw [List.getElem?_eq_getElem hlt] at hread
    have hnext : (d.seek (d.pos + 1)).pos = Int64.ofNat (i + 1) := by
      rw [Int64.ofNat_add, ← hpos]
      rfl
    have hmoved : (m.after (.change (.dir r) fun _ => d.seek (d.pos + 1))).store.get? r =
        some (.dir (d.seek (d.pos + 1))) := by
      simp [Machine.after, Store.updateDir, Store.get?_update, hd]
    have hleft : (d.seek (d.pos + 1)).countable.length = i + 1 + n := by
      rw [Nat.add_right_comm]
      exact hn
    obtain ⟨m', hrest, hlive⟩ := ih hmoved hopen hnext hleft hcount
      (by simp [Store.dir, hmoved])
    have hname : Value.str d.countable[i] ≠ .nil := by simp
    have hline := ReadsLines.line hdir (Machine.run_read hd hread) hname rfl hrest
    rw [hpos, Int64.toInt_ofNat_of_lt (by omega)] at hline
    rw [List.drop_eq_getElem_cons hlt]
    exact ⟨m', hline, hlive⟩

/-! ### Walks -/

/-- The store is in order and all standard functions can be called. -/
structure Ready (m : Machine (host F)) : Prop where
  consistent : m.store.Consistent
  find? : ∀ {name : String} {f : DirFunction}, (name, f) ∈ DirFunction.named →
    m.functions.find? name = some (.standard f)

lemma ready_start (files : F) (environment : Environment) :
    Ready (Machine.start {} files environment () : Machine (host F)) where
  consistent := Store.consistent_empty
  find? := Machine.find?_start {} files environment ()

lemma close_of_live (h : m.store.Live (.dir r)) :
    ∃ w m', m.run (Action.callMethod (.dir r) "close" [] none) = (.ok w, m') := by
  obtain ⟨d, hd⟩ := Store.live_dir_iff.mp h
  refine ⟨.nil, m.after (.change (.dir r) Dir.close), ?_⟩
  change m.run (Action.updateDir (.dir r) Dir.close >>= fun _ => pure Value.nil) = _
  rw [Machine.run_bind, Machine.run_updateDir]
  simp [Store.dir, hd, Machine.run_pure]

lemma completes_opened (hm : Ready m) (dir : String) :
    let names := (m.namesAt dir).take (2 ^ 63)
    Completes (.dir m.store.next) (m.opened dir) (numbered 0 names) (names.length + 1) := by
  obtain ⟨m', hreads, hlive⟩ := readsLines_drop (i := 0) (Machine.get?_opened hm.consistent dir)
    rfl rfl (Nat.zero_add _).symm
  obtain ⟨w, m'', hclose⟩ := close_of_live hlive
  exact ⟨m', w, m'', hreads, hclose⟩

lemma walk_of_completes
    (hopen : m.run (Action.call "Dir.open" [.str dir] none) = (.ok v, m'))
    (hd : m'.store.dir v = .ok d) (h : Completes v m' lines reads)
    (hreads : reads ≤ d.names.length + 1) : walk dir m = (lines, none) := by
  obtain ⟨m₁, w, m₂, hlines, hclose⟩ := h
  rw [walk, hopen]
  dsimp only
  rw [hd]
  dsimp only
  rw [readLines_eq hlines hreads]
  dsimp only
  rw [hclose]

variable (hm : Ready m)
include hm

lemma run_open (dir : String) : m.run (Action.call "Dir.open" [.str dir] none) =
    if FileSystem.isDir m.files (m.resolve dir) then (.ok (.dir m.store.next), m.opened dir)
    else (.error (.notADirectory dir), m) := by
  have hfind : m.functions.find? "Dir.open" = some (.standard .openDir) := hm.find? (by decide)
  rw [Machine.run_call_of_standard _ hfind]
  change m.run (Action.openDir dir >>= fun v => pure v) = _
  rw [Machine.run_bind, Machine.run_openDir]
  cases FileSystem.isDir m.files (m.resolve dir) <;> rfl

/-- **A walk shows the names of a directory**, each with its position, and does not fail on the
way. -/
theorem walk_of_isDir (hdir : FileSystem.isDir m.files (m.resolve dir)) :
    walk dir m = (numbered 0 ((m.namesAt dir).take (2 ^ 63)), none) := by
  have hopen := run_open hm dir
  rw [if_pos hdir] at hopen
  have hd : (m.opened dir).store.dir (.dir m.store.next) = .ok ⟨dir, m.namesAt dir, 0, true⟩ := by
    simp [Store.dir, Machine.get?_opened hm.consistent]
  exact walk_of_completes hopen hd (completes_opened hm dir)
    (Nat.succ_le_succ (List.length_take_le' _ _))

lemma walk_of_not_isDir (hdir : ¬ FileSystem.isDir m.files (m.resolve dir)) :
    walk dir m = ([], some (.notADirectory dir)) := by
  rw [walk, run_open hm, if_neg hdir]

/-- Once the directory is open, nothing fails. -/
lemma exists_completes
    (hopen : m.run (Action.call "Dir.open" [.str dir] none) = (.ok v, m')) :
    ∃ lines reads, Completes v m' lines reads ∧ walk dir m = (lines, none) := by
  by_cases hdir : FileSystem.isDir m.files (m.resolve dir)
  · rw [run_open hm, if_pos hdir] at hopen
    cases hopen
    exact ⟨_, _, completes_opened hm dir, walk_of_isDir hm hdir⟩
  · rw [run_open hm, if_neg hdir] at hopen
    cases hopen

end CommandLine

end Dirlang
