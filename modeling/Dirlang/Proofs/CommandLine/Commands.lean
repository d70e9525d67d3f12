import Mathlib
import Dirlang.Proofs.CommandLine.Walk
import Dirlang.Proofs.Machine.Matches

/-!
What the commands print, and their exit codes.

A command calls one function, and it fails just when that call does. All that comes after the call
works on what the call has made and cannot fail, so that nothing is printed by a command that fails.
-/

namespace Dirlang.CommandLine

open Machine (Lists)

variable {F : Type} [FileSystem F] {m : Machine (host F)} {function arg name : String}
  {names args args' : List String} {e : Error}

/-! ### Lists -/

lemma run_listed (m : Machine (host F)) (function arg : String) :
    (listed function arg m).1 = match m.run (Action.call function [.str arg] none) with
      | (.ok v, m') => m'.store.strings v
      | (.error e, _) => .error e := by
  change (m.run (Action.call function [.str arg] none >>= fun v => look >>= fun m =>
    liftM (m.store.strings v))).1 = _
  rw [Machine.run_bind]
  rcases m.run (Action.call function [.str arg] none) with ⟨e | v, m'⟩
  · rfl
  · dsimp only
    rw [Machine.run_bind, Machine.run_look]
    dsimp only
    rw [Machine.run_lift]

lemma listed_of_lists (h : Lists names (m.run (Action.call function [.str arg] none))) :
    (listed function arg m).1 = .ok names := by
  obtain ⟨r, hended, hnames⟩ := h
  rw [run_listed]
  rcases hrun : m.run (Action.call function [.str arg] none) with ⟨e | v, m'⟩
  · rw [hrun] at hended
    cases hended
  · rw [hrun] at hended hnames
    cases hended
    exact hnames

lemma listed_of_error (h : (m.run (Action.call function [.str arg] none)).1 = .error e) :
    (listed function arg m).1 = .error e := by
  rw [run_listed]
  rcases hrun : m.run (Action.call function [.str arg] none) with ⟨e' | v, m'⟩
  · rw [hrun] at h
    cases h
    rfl
  · rw [hrun] at h
    cases h

/-! ### Functions -/

/-- The call fails. -/
def CallFails (m : Machine (host F)) (function arg : String) : Prop :=
  ∃ e, (m.run (Action.call function [.str arg] none)).1 = .error e

lemma run_entries (hm : Ready m) (dir : String) :
    if FileSystem.isDir m.files (m.resolve dir) then
      Lists (m.namesAt dir) (m.run (Action.call "Dir.entries" [.str dir] none))
    else CallFails m "Dir.entries" dir := by
  have hfind : m.functions.find? "Dir.entries" = some (.standard .entries) := hm.find? (by decide)
  unfold CallFails
  rw [Machine.run_call_of_standard _ hfind]
  split
  · next hdir => exact Machine.lists_entries hm.consistent hdir none
  · next hdir =>
    obtain ⟨what, hrun⟩ := Machine.run_of_not_dir hdir none (f := .entries) (by simp)
    exact ⟨_, congrArg Prod.fst hrun⟩

lemma run_glob (hm : Ready m) (pattern : String) :
    CallFails m "Dir.glob" pattern ∨
      ∃ paths, Lists paths (m.run (Action.call "Dir.glob" [.str pattern] none)) := by
  have hfind : m.functions.find? "Dir.glob" = some (.standard .glob) := hm.find? (by decide)
  unfold CallFails
  rw [Machine.run_call_of_standard _ hfind]
  rcases hglob : FileSystem.glob m.files m.currentDir pattern with text | paths
  · exact .inl ⟨_, congrArg Prod.fst (Machine.run_glob_of_error hglob none)⟩
  · rw [Machine.run_glob_none hglob]
    exact .inr ⟨paths, Machine.lists_newStrings hm.consistent paths⟩

/-! ### Commands -/

/-- The function that a command calls and the argument of the call. -/
def Command.call? : Command → Option (String × String)
  | .entries dir => some ("Dir.entries", dir)
  | .glob pattern => some ("Dir.glob", pattern)
  | .walk dir => some ("Dir.open", dir)
  | .methods => none

/-- The call of a command fails. -/
def Command.Fails (m : Machine (host F)) (c : Command) : Prop :=
  ∃ function arg, c.call? = some (function, arg) ∧ CallFails m function arg

lemma Command.fails_iff {c : Command} (h : c.call? = some (function, arg)) :
    c.Fails m ↔ CallFails m function arg := by
  simp [Fails, h]

lemma printed_list {r : Request} (h : r.command.call? = some (function, arg))
    (hprinted : printed m r = match (listed function arg m).1 with
      | .ok names => (printList r.json names, none)
      | .error e => ([], some e))
    (hcall : CallFails m function arg ∨
      ∃ names, Lists names (m.run (Action.call function [.str arg] none))) :
    r.command.Fails m ∧ (∃ e, printed m r = ([], some e)) ∨
      ¬ r.command.Fails m ∧ ∃ lines, printed m r = (lines, none) := by
  rw [Command.fails_iff h, hprinted]
  rcases hcall with ⟨e, he⟩ | ⟨names, hnames⟩
  · rw [listed_of_error he]
    exact .inl ⟨⟨e, he⟩, e, rfl⟩
  · rw [listed_of_lists hnames]
    refine .inr ⟨?_, _, rfl⟩
    rintro ⟨e, he⟩
    obtain ⟨_, hended, -⟩ := hnames
    rw [hended] at he
    cases he

/-- **A command fails just when its call does**, and then it has printed nothing. -/
theorem printed_cases (hm : Ready m) (r : Request) :
    r.command.Fails m ∧ (∃ e, printed m r = ([], some e)) ∨
      ¬ r.command.Fails m ∧ ∃ lines, printed m r = (lines, none) := by
  obtain ⟨c, json⟩ := r
  cases c with
  | entries dir =>
    refine printed_list rfl rfl ?_
    have hrun := run_entries hm dir
    split at hrun
    · exact .inr ⟨_, hrun⟩
    · exact .inl hrun
  | glob pattern => exact printed_list rfl rfl (run_glob hm pattern)
  | walk dir =>
    rw [Command.fails_iff rfl, CallFails, run_open hm]
    change _ ∧ (∃ e, walk dir m = _) ∨ _ ∧ ∃ lines, walk dir m = _
    by_cases hdir : FileSystem.isDir m.files (m.resolve dir)
    · rw [if_pos hdir, walk_of_isDir hm hdir]
      exact .inr ⟨nofun, _, rfl⟩
    · rw [if_neg hdir, walk_of_not_isDir hm hdir]
      exact .inl ⟨⟨_, rfl⟩, _, rfl⟩
  | methods => exact .inr ⟨nofun, _, rfl⟩

/-! ### Exit codes -/

/-- The commands that call a function, and the functions. -/
def calls : List (String × String) :=
  [("entries", "Dir.entries"), ("glob", "Dir.glob"), ("walk", "Dir.open")]

/-- The arguments ask for a call that fails. -/
def Fails (files : F) (environment : Environment) (args : List String) : Prop :=
  ∃ name rest function arg, args = name :: rest ∧ words rest = [arg] ∧
    (name, function) ∈ calls ∧ CallFails (Machine.start {} files environment ()) function arg

lemma Means.call?_eq_some_iff {ws : List String} {c : Command} (h : Means name ws c) :
    c.call? = some (function, arg) ↔ ws = [arg] ∧ (name, function) ∈ calls := by
  cases h <;> simp [Command.call?, calls, eq_comm, and_comm]

lemma fails_iff {files : F} {environment : Environment} {r : Request} (h : request args = .ok r) :
    Fails files environment args ↔
      r.command.Fails (Machine.start {} files environment () : Machine (host F)) := by
  rcases args with _ | ⟨name, args⟩
  · cases h
  · obtain ⟨-, hmeans, -⟩ := request_cons_eq_ok_iff.mp h
    constructor
    · rintro ⟨_, _, function, arg, ⟨⟩, hwords, hname, hcall⟩
      exact ⟨function, arg, hmeans.call?_eq_some_iff.mpr ⟨hwords, hname⟩, hcall⟩
    · rintro ⟨function, arg, hasks, hcall⟩
      obtain ⟨hwords, hname⟩ := hmeans.call?_eq_some_iff.mp hasks
      exact ⟨name, args, function, arg, rfl, hwords, hname, hcall⟩

lemma run_cases (files : F) (environment : Environment) (args : List String) :
    let out := run files environment args
    Misused args ∧ out.code = 2 ∧ out.stdout = "" ∨
      ¬ Misused args ∧ Fails files environment args ∧ out.code = 1 ∧ out.stdout = "" ∨
      ¬ Misused args ∧ ¬ Fails files environment args ∧ out.code = 0 := by
  intro out
  rcases hrequest : request args with misuse | r
  · refine .inl ⟨?_, ?_⟩
    · by_contra h
      obtain ⟨r, hr⟩ := exists_request_iff.mpr h
      rw [hrequest] at hr
      cases hr
    · simp only [out, run, hrequest, and_self]
  · have hused : ¬ Misused args := exists_request_iff.mp ⟨r, hrequest⟩
    rw [fails_iff hrequest]
    have hout : out = (printed (Machine.start {} files environment ()) r).output := by
      simp only [out, run, hrequest]
    rw [hout]
    obtain ⟨hfails, e, he⟩ | ⟨hfails, lines, hlines⟩ :=
      printed_cases (ready_start files environment) r
    · rw [he]
      exact .inr (.inl ⟨hused, hfails, rfl, rfl⟩)
    · rw [hlines]
      exact .inr (.inr ⟨hused, hfails, rfl⟩)

lemma fails_congr {files : F} {environment : Environment} (h : words args' = words args) :
    Fails files environment (name :: args') ↔ Fails files environment (name :: args) := by
  simp only [Fails, List.cons.injEq]
  constructor
  · rintro ⟨_, _, function, arg, ⟨rfl, rfl⟩, hwords, hcall⟩
    exact ⟨_, _, function, arg, ⟨rfl, rfl⟩, h ▸ hwords, hcall⟩
  · rintro ⟨_, _, function, arg, ⟨rfl, rfl⟩, hwords, hcall⟩
    exact ⟨_, _, function, arg, ⟨rfl, rfl⟩, h.trans hwords, hcall⟩

lemma code_congr (files : F) (environment : Environment) (h : words args' = words args) :
    (run files environment (name :: args')).code = (run files environment (name :: args)).code := by
  have hcases := run_cases files environment (name :: args)
  have hcases' := run_cases files environment (name :: args')
  rw [misused_congr h, fails_congr h] at hcases'
  -- now both codes are told by the same two conditions
  grind

lemma stdout_congr (files : F) (environment : Environment) (h : words args' = words args)
    (hjson : "json" ∈ args' ↔ "json" ∈ args) :
    (run files environment (name :: args')).stdout =
      (run files environment (name :: args)).stdout := by
  have hcontains : args'.contains "json" = args.contains "json" := by
    rw [Bool.eq_iff_iff, List.contains_iff_mem, List.contains_iff_mem, hjson]
  rw [run, run, request_cons, request_cons, h, hcontains]

/-- **No command succeeds by halves.** The exit code is 2 if the arguments are misused, else 1 if
the call fails that they ask for, and else 0; unless it is 0 nothing is printed. A walk never fails
once its directory is open. Flags may be moved and repeated without any difference to the exit code
or to what is printed. -/
theorem run_all_or_nothing (files : F) (environment : Environment) (args : List String) :
    let m : Machine (host F) := Machine.start {} files environment ()
    let out := run files environment args
    (out.code = 2 ↔ Misused args) ∧
    (out.code = 1 ↔ ¬ Misused args ∧ Fails files environment args) ∧
    (out.code = 0 ↔ ¬ Misused args ∧ ¬ Fails files environment args) ∧
    (out.code ≠ 0 → out.stdout = "") ∧
    (∀ dir v opened, m.run (Action.call "Dir.open" [.str dir] none) = (.ok v, opened) →
      ∃ lines reads, Completes v opened lines reads ∧ walk dir m = (lines, none)) ∧
    ∀ name rest rest', args = name :: rest → words rest' = words rest →
      (run files environment (name :: rest')).code = out.code ∧
      (("json" ∈ rest' ↔ "json" ∈ rest) →
        (run files environment (name :: rest')).stdout = out.stdout) := by
  intro m out
  have hcodes : (out.code = 2 ↔ Misused args) ∧
      (out.code = 1 ↔ ¬ Misused args ∧ Fails files environment args) ∧
      (out.code = 0 ↔ ¬ Misused args ∧ ¬ Fails files environment args) ∧
      (out.code ≠ 0 → out.stdout = "") := by
    obtain ⟨h, hcode, hout⟩ | ⟨h, hfails, hcode, hout⟩ | ⟨h, hfails, hcode⟩ :=
      run_cases files environment args
    · simp [out, hcode, hout, h]
    · simp [out, hcode, hout, h, hfails]
    · simp [out, hcode, h, hfails]
  obtain ⟨hmisused, hfails, hdone, hsilent⟩ := hcodes
  refine ⟨hmisused, hfails, hdone, hsilent,
    fun dir v opened => exists_completes (ready_start files environment), ?_⟩
  rintro name rest rest' rfl hwords
  exact ⟨code_congr files environment hwords, stdout_congr files environment hwords⟩

/-! ### Walking and listing -/

end Dirlang.CommandLine
