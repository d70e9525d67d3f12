import Mathlib
import Dirlang.Glob.Report
import Dirlang.Proofs.Path.Below
import Dirlang.Proofs.Path.Resolving

/-!
What a report shows of the paths that a search found.
-/

open Dirlang.RawPath Dirlang.Text

namespace Dirlang.Glob

variable {ε : Type} {base path : RawPath}

lemma below_shown (h : components base <+: components path) :
    Below base path (shown (some base) path) := by
  rcases hstrip : stripBase? path base with _ | s
  · exact (stripBase?_eq_none_iff.mp hstrip h).elim
  · have hshown : shown (some base) path = s := by simp [shown, hstrip]
    rw [hshown]
    exact below_of_stripBase?_eq_some hstrip

lemma shown_eq_self (h : ¬ components base <+: components path) :
    shown (some base) path = path := by
  have hstrip := stripBase?_eq_none_iff.mpr h
  simp [shown, hstrip]

lemma isUtf8_shown (base : Option RawPath) (h : IsUtf8 path) : IsUtf8 (shown base path) := by
  rcases base with _ | base
  · exact h
  by_cases hbegins : components base <+: components path
  · exact (below_shown hbegins).isUtf8 h
  · rwa [shown_eq_self hbegins]

lemma report_eq_map (base : Option RawPath) (found : List (Except ε RawPath)) :
    report base found =
      (found.filterMap Except.toOption).map fun path => lossy (shown base path) := by
  induction found with
  | nil => rfl
  | cons result found ih =>
    cases result with
    | ok path => exact congrArg (lossy (shown base path) :: ·) ih
    | error e => exact ih

/-- **Reports lead back to what was found.** Of the results of a search, in whatever order, each
path is shown by one text, in its place, and errors leave nothing. Without a base the path is shown.
With one, of a path whose components begin with those of the base what comes after them is shown: a
part of the path that has just the components left and, joined to the base, means the path again.
Any other path is shown whole. The text is what is shown, byte by byte, just when that is text, as
it is whenever the path is. -/
theorem report_leads_back (base : Option RawPath) (found : List (Except ε RawPath)) :
    report base found =
        ((found.filterMap Except.toOption).map fun path => lossy (shown base path)) ∧
      ∀ path,
        (match base with
          | none => shown base path = path
          | some b =>
            if components b <+: components path then Below b path (shown base path)
            else shown base path = path) ∧
        (utf8 (lossy (shown base path)) = shown base path ↔ IsUtf8 (shown base path)) ∧
        (IsUtf8 path → IsUtf8 (shown base path)) := by
  refine ⟨report_eq_map base found, fun path => ⟨?_, utf8_lossy_iff, isUtf8_shown base⟩⟩
  cases base with
  | none => rfl
  | some b =>
    dsimp only
    split
    · next h => exact below_shown h
    · next h => exact shown_eq_self h

/-- Dots and doubled slashes do not count, names count as a whole, and the rest keeps its own
spelling. -/
theorem report_leads_back_crooked :
    let path := utf8 "//base/d/./a//é/"
    report (some (utf8 "/base/.//d")) [.ok path, .error (), .ok (utf8 "/base/dune")] =
        ["a//é", "/base/dune"] ∧
      Below (utf8 "/base/.//d") path (utf8 "a//é") ∧
      components (utf8 (Path.resolve "/base/.//d" "a//é")) = components path := by
  intro path
  obtain ⟨hreport, hpaths⟩ :=
    report_leads_back (some (utf8 "/base/.//d")) [.ok path, .error (), .ok (utf8 "/base/dune")]
  obtain ⟨hbelow, hexact, hutf8⟩ := hpaths path
  have htext := hexact.mpr (hutf8 ⟨_, rfl⟩)
  have hlossy : lossy (shown (some (utf8 "/base/.//d")) path) = "a//é" := by decide +kernel
  dsimp only at hbelow
  rw [if_pos (by decide +kernel), ← htext, hlossy] at hbelow
  exact ⟨hreport.trans (by decide +kernel), hbelow, join_utf8 .. ▸ hbelow.components_join⟩

/-- Bytes that are no text are marked, so that two paths are shown alike and no text leads back to
either of them. Nor does a path lead back that is shown whole because the search spells the base in
another way: it finds `a/b` from `./a`. -/
theorem report_not_leading_back :
    let base := utf8 "/base"
    let path : RawPath := base ++ [slash, 0xFF]
    let other : RawPath := base ++ [slash, 0xFE]
    path ≠ other ∧ components base <+: components path ∧
      report (some base) [.ok path, .error (), .ok other] = ["\uFFFD", "\uFFFD"] ∧
      components (join base (utf8 "\uFFFD")) ≠ components path ∧
      report none [.ok path, .error ()] = ["/base/\uFFFD"] ∧ utf8 "/base/\uFFFD" ≠ path ∧
      report (some (utf8 "./a")) [.ok (utf8 "a/b"), .error ()] = ["a/b"] ∧
      components (join (utf8 "./a") (utf8 "a/b")) ≠ components (utf8 "a/b") := by
  decide +kernel

end Dirlang.Glob
