import Mathlib
import Dirlang.CommandLine

/-!
What a command line asks for, if it makes sense.

Where the flags stand and how often makes no difference. They are taken out first, and then the
words that are left decide what is to be done.
-/

namespace Dirlang.CommandLine

/-- The arguments that are no flags. -/
def words (args : List String) : List String :=
  args.filter fun arg => arg ≠ "json" ∧ arg ≠ "verbose"

/-- There is an argument that looks like an option. There are no options. -/
def HasOption (args : List String) : Prop := ∃ arg ∈ args, ['-', '-'] <+: arg.toList

instance (args : List String) : Decidable (HasOption args) :=
  inferInstanceAs (Decidable (∃ arg ∈ args, _ <+: _))

/-- The arguments make no sense. -/
def Misused : List String → Prop
  | [] => True
  | name :: args => HasOption args ∨ name ∉ ["entries", "glob", "walk", "methods"] ∨
    name ∈ ["entries", "glob", "walk"] ∧ (words args).length ≠ 1

variable {name arg : String} {args args' : List String}

lemma isOption_iff : isOption arg ↔ ['-', '-'] <+: arg.toList :=
  List.isPrefixOf_iff_prefix

lemma filter_isFlag (args : List String) : args.filter (!isFlag ·) = words args := by
  refine List.filter_congr fun arg _ => ?_
  simp [isFlag]

/-! ### Flags -/

lemma isFlag_eq_false_of_isOption (h : isOption arg) : isFlag arg = false := by
  by_contra hflag
  simp only [isFlag, Bool.not_eq_false, Bool.or_eq_true, decide_eq_true_eq] at hflag
  rcases hflag with rfl | rfl <;> exact absurd h (by decide)

lemma find?_isOption_words (args : List String) :
    (words args).find? isOption = args.find? isOption := by
  rw [← filter_isFlag, List.find?_filter]
  congr 1
  funext arg
  by_cases h : isOption arg <;> simp [h, isFlag_eq_false_of_isOption]

lemma words_words (args : List String) : words (words args) = words args := by
  simp [words, List.filter_filter]

lemma only_words (what : String) (args : List String) :
    only what (words args) = only what args := by
  simp only [only, filter_isFlag, words_words]

lemma command_words (name : String) (args : List String) :
    command name (words args) = command name args := by
  simp only [command, only_words]

lemma request_cons (name : String) (args : List String) :
    request (name :: args) = match (words args).find? isOption with
      | some arg => .error (.unknownOption arg)
      | none => (command name (words args)).map (⟨·, args.contains "json"⟩) := by
  rw [find?_isOption_words, command_words]
  rfl

/-! ### Misuse -/

/-- What a command with its words asks for. -/
inductive Means : String → List String → Command → Prop
  | entries (dir : String) : Means "entries" [dir] (.entries dir)
  | glob (pattern : String) : Means "glob" [pattern] (.glob pattern)
  | walk (dir : String) : Means "walk" [dir] (.walk dir)
  | methods (words : List String) : Means "methods" words .methods

lemma find?_isOption_eq_none_iff : args.find? isOption = none ↔ ¬ HasOption args := by
  simp [HasOption, isOption_iff]

lemma only_eq_ok_iff {what : String} : only what args = .ok arg ↔ words args = [arg] := by
  rw [only, filter_isFlag]
  split
  · next h => simp [h]
  · next h => exact ⟨nofun, fun hwords => absurd hwords (h arg)⟩

lemma map_only_eq_ok_iff {what : String} {f : String → Command} {c : Command} :
    (only what args).map f = .ok c ↔ ∃ arg, words args = [arg] ∧ f arg = c := by
  rcases h : only what args with e | arg
  · have hnone (arg : String) : words args ≠ [arg] := fun hwords => by
      rw [only_eq_ok_iff.mpr hwords] at h
      cases h
    simp [Except.map, hnone]
  · rw [only_eq_ok_iff] at h
    simp [Except.map, h]

lemma command_eq_ok_iff {c : Command} : command name args = .ok c ↔ Means name (words args) c := by
  constructor
  · intro h
    unfold command at h
    split at h
    · obtain ⟨dir, hdir, rfl⟩ := map_only_eq_ok_iff.mp h
      exact hdir ▸ .entries dir
    · obtain ⟨pattern, hpattern, rfl⟩ := map_only_eq_ok_iff.mp h
      exact hpattern ▸ .glob pattern
    · obtain ⟨dir, hdir, rfl⟩ := map_only_eq_ok_iff.mp h
      exact hdir ▸ .walk dir
    · cases h
      exact .methods _
    · cases h
  · intro h
    generalize hwords : words args = ws at h
    cases h with
    | entries dir => exact map_only_eq_ok_iff.mpr ⟨dir, hwords, rfl⟩
    | glob pattern => exact map_only_eq_ok_iff.mpr ⟨pattern, hwords, rfl⟩
    | walk dir => exact map_only_eq_ok_iff.mpr ⟨dir, hwords, rfl⟩
    | methods => rfl

lemma request_cons_eq_ok_iff {r : Request} :
    request (name :: args) = .ok r ↔
      ¬ HasOption args ∧ Means name (words args) r.command ∧ r.json = args.contains "json" := by
  obtain ⟨c, json⟩ := r
  simp only [request, ← find?_isOption_eq_none_iff, ← command_eq_ok_iff]
  rcases args.find? isOption with _ | arg
  · rcases command name args with e | c' <;> simp [Except.map, eq_comm]
  · simp

lemma exists_means_iff {ws : List String} :
    (∃ c, Means name ws c) ↔ name ∈ ["entries", "glob", "walk", "methods"] ∧
      (name ∈ ["entries", "glob", "walk"] → ws.length = 1) := by
  constructor
  · rintro ⟨c, h⟩
    cases h <;> simp
  · rintro ⟨hname, hwords⟩
    simp only [List.length_eq_one_iff] at hwords
    simp only [List.mem_cons, List.not_mem_nil, or_false] at hname
    rcases hname with rfl | rfl | rfl | rfl
    · obtain ⟨dir, rfl⟩ := hwords (by simp)
      exact ⟨_, .entries dir⟩
    · obtain ⟨pattern, rfl⟩ := hwords (by simp)
      exact ⟨_, .glob pattern⟩
    · obtain ⟨dir, rfl⟩ := hwords (by simp)
      exact ⟨_, .walk dir⟩
    · exact ⟨_, .methods ws⟩

lemma hasOption_words : HasOption (words args) ↔ HasOption args := by
  rw [← not_iff_not, ← find?_isOption_eq_none_iff, ← find?_isOption_eq_none_iff,
    find?_isOption_words]

lemma misused_congr (h : words args' = words args) :
    Misused (name :: args') ↔ Misused (name :: args) := by
  rw [Misused, Misused, ← hasOption_words, h, hasOption_words]

/-- **Arguments are taken unless they are misused.** -/
lemma exists_request_iff : (∃ r, request args = .ok r) ↔ ¬ Misused args := by
  rcases args with _ | ⟨name, args⟩
  · simp [request, Misused]
  · have hmeans : (∃ r, request (name :: args) = .ok r) ↔
        ¬ HasOption args ∧ ∃ c, Means name (words args) c := by
      constructor
      · rintro ⟨r, h⟩
        obtain ⟨hoption, hc, -⟩ := request_cons_eq_ok_iff.mp h
        exact ⟨hoption, _, hc⟩
      · rintro ⟨hoption, c, hc⟩
        exact ⟨⟨c, _⟩, request_cons_eq_ok_iff.mpr ⟨hoption, hc, rfl⟩⟩
    rw [hmeans, exists_means_iff, Misused, not_or, not_or, not_not, not_and, ne_eq, not_not]

end Dirlang.CommandLine
