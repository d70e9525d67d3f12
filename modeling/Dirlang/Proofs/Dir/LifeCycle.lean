import Mathlib
import Dirlang.Dir

/-!
The life of an open directory: its state after any operations, and what it answers to the next.

The path and the names stay those of the start, and closing is for good. The cursor is where it was
put last, moved on by every read since that found a name. A name is found inside the listing only,
so that moving on never runs over the largest position.
-/

namespace Dirlang.Dir

/-- An operation on an open directory. Whoever visits the names is told all those visited so far,
the one at hand last, and may fail at it. -/
inductive Op
  | close
  | read
  | seek (pos : Int64)
  | rewind
  | tell
  | path
  | rawPath
  | entries
  | each (visit : List String → Except Error Unit)

/-- What an operation answers. -/
inductive Reply
  | done
  | name (name : Option String)
  | pos (pos : Int64)
  | text (text : String)
  | names (names : List String)
  /-- The names that were visited, and how that ended. -/
  | visited (names : List String) (outcome : Except Error Unit)

variable {d : Dir}

/-- Keeps track of a name and visits it. -/
def note (visit : List String → Except Error Unit) (name : String) :
    ExceptT Error (StateM (List String)) Unit := do
  modify (· ++ [name])
  liftM (visit (← get))

/-- How visiting the names ends, and the names that were visited. -/
def visited (d : Dir) (visit : List String → Except Error Unit) :
    Except Error Unit × List String :=
  (d.each (note visit)).run []

def reply (d : Dir) : Op → Except Error Reply
  | .close | .seek _ => .ok .done
  | .read => d.read.map fun r => .name r.1
  | .rewind => .ok (.pos d.rewind.pos)
  | .tell => .ok (.pos d.pos)
  | .path => d.path?.map .text
  | .rawPath => .ok (.text d.path)
  | .entries => .ok (.names d.names)
  | .each visit => .ok (.visited (d.visited visit).2 (d.visited visit).1)

def after (d : Dir) : Op → Dir
  | .close => d.close
  | .read => match d.read with
    | .ok (_, d') => d'
    | .error _ => d
  | .seek pos => d.seek pos
  | .rewind => d.rewind
  | _ => d

def afterAll (d : Dir) (ops : List Op) : Dir := ops.foldl after d

@[simp] lemma afterAll_nil (d : Dir) : d.afterAll [] = d := rfl
@[simp] lemma afterAll_cons (d : Dir) (op : Op) (ops : List Op) :
    d.afterAll (op :: ops) = (d.after op).afterAll ops := rfl
lemma afterAll_append (d : Dir) (ops more : List Op) :
    d.afterAll (ops ++ more) = (d.afterAll ops).afterAll more := by
  simp [afterAll, List.foldl_append]

/-- The answers to operations in a row. -/
def replies (d : Dir) : List Op → List (Except Error Reply)
  | [] => []
  | op :: ops => d.reply op :: (d.after op).replies ops

/-- The answer is a name. -/
def Reply.isName : Except Error Reply → Bool
  | .ok (.name (some _)) => true
  | _ => false

/-- How many operations answer a name, when they are done in a row. -/
def found (d : Dir) (ops : List Op) : ℕ := (d.replies ops).countP Reply.isName

/-- Where the operation puts the cursor, if it does. -/
def Op.puts? : Op → Option Int64
  | .seek pos => some pos
  | .rewind => some 0
  | _ => none

/-! ### Reading -/

lemma current?_eq (d : Dir) :
    d.current? = if 0 ≤ d.pos.toInt then d.names[d.pos.toInt.toNat]? else none := by
  unfold current?
  cases d.pos.toInt <;> simp [Int.toNat?]

lemma current?_of_lt {i : ℕ} (hpos : d.pos.toInt = i) (hi : i < d.names.length) :
    d.current? = some d.names[i] := by
  simp [current?_eq, hpos, hi]

lemma current?_of_outside (h : ¬ (0 ≤ d.pos.toInt ∧ d.pos.toInt < d.names.length)) :
    d.current? = none := by
  rw [current?_eq]
  split
  · next hpos =>
    refine List.getElem?_eq_none ?_
    omega
  · rfl

lemma toInt_add_one {i : ℕ} (hpos : d.pos.toInt = i) (hi : i < d.names.length)
    (hlen : d.names.length < 2 ^ 60) : (d.pos + 1).toInt = i + 1 := by
  rw [Int64.toInt_add, hpos]
  have : (1 : Int64).toInt = 1 := rfl
  rw [this, Int.bmod_eq_of_le] <;> omega

lemma read_of_lt (hopen : d.isOpen) {i : ℕ} (hpos : d.pos.toInt = i) (hi : i < d.names.length) :
    d.reply .read = .ok (.name (some d.names[i])) ∧
      d.after .read = { d with pos := d.pos + 1 } := by
  simp [reply, after, read, hopen, current?_of_lt hpos hi, seek, Except.map]

lemma read_of_outside (hopen : d.isOpen)
    (h : ¬ (0 ≤ d.pos.toInt ∧ d.pos.toInt < d.names.length)) :
    d.reply .read = .ok (.name none) ∧ d.after .read = d := by
  simp [reply, after, read, hopen, current?_of_outside h, Except.map]

lemma after_of_closed (h : ¬ d.isOpen) {op : Op} (hop : op = .read ∨ op = .path) :
    d.after op = d := by
  rcases hop with rfl | rfl <;> simp [after, read, h]

lemma after_read (d : Dir) :
    d.after .read = if d.isOpen ∧ d.current?.isSome then d.seek (d.pos + 1) else d := by
  by_cases h : d.isOpen
  · cases hc : d.current? <;> simp [after, read, h, hc]
  · simp [after, read, h]

/-! ### One operation -/

@[simp] lemma path_after (d : Dir) (op : Op) : (d.after op).path = d.path := by
  cases op with
  | read => rw [after_read]; split <;> rfl
  | _ => rfl

@[simp] lemma names_after (d : Dir) (op : Op) : (d.after op).names = d.names := by
  cases op with
  | read => rw [after_read]; split <;> rfl
  | _ => rfl

lemma isOpen_after (d : Dir) (op : Op) : (d.after op).isOpen ↔ d.isOpen ∧ op ≠ .close := by
  cases op with
  | read => rw [after_read]; split <;> simp [seek]
  | close => simp [after, close]
  | _ => simp [after, seek, rewind]

lemma pos_after_of_puts {op : Op} {pos : Int64} (h : op.puts? = some pos) :
    (d.after op).pos = pos := by
  cases op with
  | seek p => simpa [Op.puts?, after, seek] using h
  | rewind => simpa [Op.puts?, after, rewind, seek] using h
  | _ => cases h

lemma pos_after_of_puts_none {op : Op} (h : op.puts? = none) (hlen : d.names.length < 2 ^ 60) :
    (d.after op).pos.toInt = d.pos.toInt + d.found [op] := by
  -- only a read that answers a name moves the cursor
  cases op with
  | seek p => cases h
  | rewind => cases h
  | read =>
    by_cases hopen : d.isOpen
    · by_cases hin : 0 ≤ d.pos.toInt ∧ d.pos.toInt < d.names.length
      · obtain ⟨i, hi⟩ := Int.eq_ofNat_of_zero_le hin.1
        have hlt : i < d.names.length := by omega
        obtain ⟨hreply, hafter⟩ := read_of_lt hopen hi hlt
        rw [hafter, toInt_add_one hi hlt hlen, hi]
        simp [found, replies, hreply, Reply.isName]
      · obtain ⟨hreply, hafter⟩ := read_of_outside hopen hin
        rw [hafter]
        simp [found, replies, hreply, Reply.isName]
    · simp [after_of_closed hopen, found, replies, reply, read, hopen, Except.map, Reply.isName]
  | path =>
    by_cases hopen : d.isOpen <;>
      simp [found, replies, reply, path?, hopen, after, Except.map, Reply.isName]
  | _ => simp [found, replies, reply, Reply.isName, after, close]

/-! ### Any number of operations -/

lemma path_afterAll (d : Dir) (ops : List Op) : (d.afterAll ops).path = d.path := by
  induction ops generalizing d with
  | nil => rfl
  | cons op ops ih => rw [afterAll_cons, ih, path_after]

lemma names_afterAll (d : Dir) (ops : List Op) : (d.afterAll ops).names = d.names := by
  induction ops generalizing d with
  | nil => rfl
  | cons op ops ih => rw [afterAll_cons, ih, names_after]

lemma isOpen_afterAll (d : Dir) (ops : List Op) :
    (d.afterAll ops).isOpen ↔ d.isOpen ∧ .close ∉ ops := by
  induction ops generalizing d with
  | nil => simp
  | cons op ops ih =>
    rw [afterAll_cons, ih, isOpen_after, List.mem_cons, not_or, and_assoc, ne_comm]

lemma found_cons (d : Dir) (op : Op) (ops : List Op) :
    d.found (op :: ops) = d.found [op] + (d.after op).found ops := by
  simp only [found, replies, List.countP_cons, List.countP_nil]
  omega

lemma pos_afterAll {ops : List Op} (h : ∀ op ∈ ops, op.puts? = none)
    (hlen : d.names.length < 2 ^ 60) :
    (d.afterAll ops).pos.toInt = d.pos.toInt + d.found ops := by
  induction ops generalizing d with
  | nil => simp [found, replies]
  | cons op ops ih =>
    have hop := pos_after_of_puts_none (h op List.mem_cons_self) hlen
    have hops := ih (d := d.after op) (fun o ho => h o (List.mem_cons_of_mem _ ho))
      (by rwa [names_after])
    rw [afterAll_cons, hops, hop, found_cons d op ops]
    push_cast
    ring

lemma replies_replicate_read (hopen : d.isOpen) (hlen : d.names.length < 2 ^ 60) {i : ℕ}
    (hpos : d.pos.toInt = i) (hi : i ≤ d.names.length) (k : ℕ) :
    d.replies (List.replicate (d.names.length - i + k) .read) =
      (d.names.drop i).map (fun name => .ok (.name (some name))) ++
        List.replicate k (.ok (.name none)) := by
  obtain ⟨n, hn⟩ := Nat.exists_eq_add_of_le hi
  induction n generalizing d i with
  | zero =>
    -- at the end: nothing moves any more
    have hi : i = d.names.length := by omega
    have hout : ¬ (0 ≤ d.pos.toInt ∧ d.pos.toInt < d.names.length) := by omega
    obtain ⟨hreply, hafter⟩ := read_of_outside hopen hout
    rw [hi, Nat.sub_self, Nat.zero_add, List.drop_length, List.map_nil, List.nil_append]
    induction k with
    | zero => rfl
    | succ k ih => rw [List.replicate_succ, replies, hreply, hafter, ih, List.replicate_succ]
  | succ n ih =>
    have hlt : i < d.names.length := by omega
    obtain ⟨hreply, hafter⟩ := read_of_lt hopen hpos hlt
    have hnames : (d.after .read).names = d.names := names_after d .read
    have hrest := ih (d := d.after .read) (i := i + 1) (by rw [hafter]; exact hopen)
      (by rwa [hnames]) (by rw [hafter]; exact toInt_add_one hpos hlt hlen)
      (by rw [hnames]; omega) (by rw [hnames]; omega)
    have hcount : d.names.length - i + k = d.names.length - (i + 1) + k + 1 := by omega
    rw [hnames] at hrest
    rw [hcount, List.replicate_succ, replies, hreply, hrest, List.drop_eq_getElem_cons hlt]
    rfl

/-! ### Visiting -/

section

variable {visit : List String → Except Error Unit}

lemma run_note (name : String) (before : List String) :
    StateT.run (note visit name).run before =
      (visit (before ++ [name]), before ++ [name]) := rfl

lemma run_forM_note_cons (before : List String) (name : String) (names : List String) :
    ((name :: names).forM (note visit)).run before = match visit (before ++ [name]) with
      | .ok () => (names.forM (note visit)).run (before ++ [name])
      | .error e => (.error e, before ++ [name]) := by
  change StateT.run (note visit name >>= fun _ => names.forM (note visit)).run before = _
  rw [ExceptT.run_bind, StateT.run_bind, run_note]
  cases visit (before ++ [name]) <;> rfl

lemma run_forM_note_of_ok (before : List String) {names : List String}
    (h : ∀ seen, seen <+: names → seen ≠ [] → visit (before ++ seen) = .ok ()) :
    (names.forM (note visit)).run before = (.ok (), before ++ names) := by
  induction names generalizing before with
  | nil => simp; rfl
  | cons name names ih =>
    have hname : visit (before ++ [name]) = .ok () := h [name] (by simp) (by simp)
    have hnames := ih (before ++ [name]) fun seen hseen _ => by
      rw [List.append_assoc]
      exact h (name :: seen) (List.cons_prefix_cons.mpr ⟨rfl, hseen⟩) (by simp)
    rw [run_forM_note_cons, hname]
    simpa using hnames

lemma run_forM_note_of_error (before : List String) {names seen : List String} {e : Error}
    (hseen : seen <+: names) (hne : seen ≠ [])
    (hbefore : ∀ s, s <+: seen → s ≠ [] → s ≠ seen → visit (before ++ s) = .ok ())
    (he : visit (before ++ seen) = .error e) :
    (names.forM (note visit)).run before = (.error e, before ++ seen) := by
  induction seen generalizing names before with
  | nil => exact absurd rfl hne
  | cons name seen ih =>
    obtain ⟨names, rfl⟩ : ∃ rest, names = name :: rest := by
      obtain ⟨rest, rfl⟩ := hseen
      exact ⟨seen ++ rest, rfl⟩
    have hseen : seen <+: names := (List.cons_prefix_cons.mp hseen).2
    rw [run_forM_note_cons]
    rcases seen with _ | ⟨name', seen⟩
    · rw [he]
    · have hname : visit (before ++ [name]) = .ok () := hbefore [name] (by simp) (by simp) (by simp)
      rw [hname]
      have hrest := ih (before ++ [name]) hseen (by simp) (fun s hs hs' hne' => by
        rw [List.append_assoc]
        exact hbefore (name :: s) (List.cons_prefix_cons.mpr ⟨rfl, hs⟩) (by simp)
          (fun heq => hne' (List.cons.inj heq).2)) (by simpa using he)
      simpa using hrest

end

/-! ### The whole life -/

/-- What works on open and on closed directories alike. -/
structure Unguarded (d : Dir) : Prop where
  close : d.reply .close = .ok .done ∧ d.after .close = { d with isOpen := false }
  seek (pos : Int64) : d.reply (.seek pos) = .ok .done ∧ d.after (.seek pos) = { d with pos := pos }
  rewind : d.reply .rewind = .ok (.pos 0) ∧ d.after .rewind = { d with pos := 0 }
  tell : d.reply .tell = .ok (.pos d.pos) ∧ d.after .tell = d
  rawPath : d.reply .rawPath = .ok (.text d.path) ∧ d.after .rawPath = d
  entries : d.reply .entries = .ok (.names d.names) ∧ d.after .entries = d
  each (visit : List String → Except Error Unit) : d.after (.each visit) = d
  /-- All names are visited if that never fails. -/
  each_ok (visit : List String → Except Error Unit) :
    (∀ seen, seen <+: d.names → seen ≠ [] → visit seen = .ok ()) →
      d.reply (.each visit) = .ok (.visited d.names (.ok ()))
  /-- Otherwise the names are visited up to the first at which it fails. -/
  each_error (visit : List String → Except Error Unit) (seen : List String) (e : Error) :
    seen <+: d.names → seen ≠ [] →
      (∀ s, s <+: seen → s ≠ [] → s ≠ seen → visit s = .ok ()) → visit seen = .error e →
        d.reply (.each visit) = .ok (.visited seen (.error e))

lemma unguarded (d : Dir) : d.Unguarded where
  close := ⟨rfl, rfl⟩
  seek _ := ⟨rfl, rfl⟩
  rewind := ⟨rfl, rfl⟩
  tell := ⟨rfl, rfl⟩
  rawPath := ⟨rfl, rfl⟩
  entries := ⟨rfl, rfl⟩
  each _ := rfl
  each_ok visit h := by
    have hrun : d.visited visit = (.ok (), d.names) :=
      run_forM_note_of_ok [] h
    rw [reply, hrun]
  each_error visit seen e hseen hne hbefore he := by
    have hrun : d.visited visit = (.error e, seen) :=
      run_forM_note_of_error [] hseen hne hbefore he
    rw [reply, hrun]

/-- **The life of a directory.** After any operations on the directory of a listing: its path and
its names are those of the start, and it is open if none of them closed it. The cursor is where it
was put last, moved on by every read since that found a name. While it is open, reading answers
the name under the cursor and moves the cursor on, without running over, or answers that there is
none and changes nothing; so that reading from the start answers each name once and nothing from
then on. Once it is closed, reading and asking for the path fail and change nothing. All else does
not depend on that. -/
theorem life_cycle (path : String) (listing : List String) (h : listing.length < 2 ^ 59)
    (ops : List Op) :
    let start := ofListing path listing
    let d := start.afterAll ops
    (d.path = path ∧ d.names = "." :: ".." :: listing ∧ (d.isOpen ↔ .close ∉ ops)) ∧
    ((∀ before op since pos, ops = before ++ op :: since → op.puts? = some pos →
        (∀ o ∈ since, o.puts? = none) →
          d.pos.toInt = pos.toInt + (start.afterAll (before ++ [op])).found since) ∧
      ((∀ o ∈ ops, o.puts? = none) → d.pos.toInt = start.found ops)) ∧
    (d.isOpen →
      (∀ (i : ℕ) (hi : i < d.names.length), d.pos.toInt = i →
        d.reply .read = .ok (.name (some d.names[i])) ∧
          d.after .read = { d with pos := d.pos + 1 } ∧ (d.pos + 1).toInt = i + 1) ∧
      (¬ (0 ≤ d.pos.toInt ∧ d.pos.toInt < d.names.length) →
        d.reply .read = .ok (.name none) ∧ d.after .read = d) ∧
      (d.pos = 0 → ∀ k, d.replies (List.replicate (listing.length + 2 + k) .read) =
        d.names.map (fun name => .ok (.name (some name))) ++
          List.replicate k (.ok (.name none))) ∧
      d.reply .path = .ok (.text path) ∧ d.after .path = d) ∧
    (¬ d.isOpen →
      d.reply .read = .error (.closedResource "Directory already closed") ∧ d.after .read = d ∧
      d.reply .path = .error (.closedResource "closed directory") ∧ d.after .path = d) ∧
    d.Unguarded := by
  intro start d
  have hpath : d.path = path := path_afterAll start ops
  have hnames : d.names = "." :: ".." :: listing := names_afterAll start ops
  have hcount : d.names.length = listing.length + 2 := by rw [hnames]; rfl
  have hlen : d.names.length < 2 ^ 60 := by omega
  have hstart : start.names.length < 2 ^ 60 := by
    rwa [← names_afterAll start ops]
  refine ⟨⟨hpath, hnames, ?_⟩, ⟨?_, ?_⟩, fun hopen => ⟨?_, ?_, ?_, ?_, rfl⟩, fun hclosed => ?_,
    unguarded d⟩
  · exact (isOpen_afterAll start ops).trans (and_iff_right rfl)
  · rintro before op since pos hops hop hsince
    have hput : (start.afterAll (before ++ [op])).pos = pos := by
      rw [afterAll_append]
      exact pos_after_of_puts hop
    have hd : d = (start.afterAll (before ++ [op])).afterAll since := by
      rw [← afterAll_append, List.append_assoc, List.singleton_append, ← hops]
    rw [hd, pos_afterAll hsince (by rwa [names_afterAll]), hput]
  · intro hops
    have hzero : start.pos.toInt = 0 := rfl
    exact (pos_afterAll hops hstart).trans (by rw [hzero, zero_add])
  · intro i hi hpos
    obtain ⟨hreply, hafter⟩ := read_of_lt hopen hpos hi
    exact ⟨hreply, hafter, toInt_add_one hpos hi hlen⟩
  · exact read_of_outside hopen
  · intro hpos k
    have hzero : d.pos.toInt = (0 : ℕ) := by rw [hpos]; rfl
    have := replies_replicate_read hopen hlen hzero (Nat.zero_le _) k
    rwa [hcount] at this
  · simp [reply, path?, hopen, hpath, Except.map]
  · have hread := after_of_closed hclosed (.inl rfl)
    have hask := after_of_closed hclosed (.inr rfl)
    refine ⟨?_, hread, ?_, hask⟩
    · simp [reply, read, hclosed, Except.map, Error.alreadyClosed]
    · simp [reply, path?, hclosed, Except.map, Error.closedDirectory]

/-- The cursor is put before all names and back on the last of them, with reads in between,
and the directory closed after one more: the cursor is behind that name. -/
theorem life_cycle_sought :
    let ops : List Op := [.read, .seek (-9), .read, .seek 2, .read, .read, .close]
    let d := (ofListing "d" ["a"]).afterAll ops
    ["a"].length < 2 ^ 59 ∧ ¬ d.isOpen ∧ d.pos.toInt = 3 ∧
      d.reply .read = .error (.closedResource "Directory already closed") := by
  intro ops d
  have hlife := life_cycle "d" ["a"] (by decide) ops
  have hclosed : ¬ d.isOpen := by
    rw [hlife.1.2.2]
    simp [ops]
  have hpos := hlife.2.1.1 [.read, .seek (-9), .read] (.seek 2) [.read, .read, .close] 2 rfl rfl
    (by simp [Op.puts?])
  refine ⟨by decide, hclosed, ?_, (hlife.2.2.2.1 hclosed).1⟩
  rw [hpos]
  rfl

end Dirlang.Dir
