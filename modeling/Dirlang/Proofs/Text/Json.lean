import Mathlib
import Dirlang.Text.Json
import Dirlang.Proofs.Text.Escaping

/-!
Reading JSON text: an array of strings tells what they are.
-/

namespace Dirlang.Text.Json

variable {s t : List Char}

lemma hexDigit_inj {m n : ℕ} (hm : m < 16) (hn : n < 16) (h : hexDigit m = hexDigit n) :
    m = n := by
  have hdigits : ∀ m < 16, ∀ n < 16, hexDigit m = hexDigit n → m = n := by decide
  exact hdigits m hm n hn h

def escaping : Escaping where
  letters := [('"', '"'), ('\\', '\\'), ('\x08', 'b'), ('\x0c', 'f'), ('\n', 'n'), ('\r', 'r'),
    ('\t', 't')]
  isCoded c := c < ' '
  code c := ['0', '0', hexDigit (c.toNat / 16), hexDigit (c.toNat % 16)]
  letter_inj := by decide
  letter_ne := by decide
  code_inj c d s t hc hd h := by
    have hc : c.toNat < 32 := hc
    have hd : d.toNat < 32 := hd
    simp only [List.cons_append, List.nil_append, List.cons.injEq, true_and] at h
    obtain ⟨hhigh, hlow, hrest⟩ := h
    have hhigh := hexDigit_inj (by omega) (by omega) hhigh
    have hlow := hexDigit_inj (by omega) (by omega) hlow
    exact ⟨Char.toNat_inj.mp (by omega), hrest⟩

lemma writes_escape (c : Char) : escaping.Writes c (escape c) := by
  unfold escape
  split
  any_goals exact .letter (by decide)
  split
  · next hcontrol => exact .code hcontrol
  · next hquote hbackslash _ _ _ _ _ _ => exact .raw hquote hbackslash

lemma string_append_inj {x y : String} (h : (string x).toList ++ s = (string y).toList ++ t) :
    x = y ∧ s = t := by
  rw [string, string, String.toList_ofList, String.toList_ofList] at h
  exact Escaping.quoted_inj writes_escape h

/-- The texts of strings, each with a comma before it, up to the end of the array. -/
def tail : List String → List Char
  | [] => [']']
  | x :: xs => ',' :: (string x).toList ++ tail xs

lemma toList_array_cons (x : String) (xs : List String) :
    (array ((x :: xs).map string)).toList = '[' :: (string x).toList ++ tail xs := by
  have hrest (x : String) (xs : List String) :
      (",".intercalate ((x :: xs).map string)).toList ++ [']'] = (string x).toList ++ tail xs := by
    induction xs generalizing x with
    | nil => simp [tail]
    | cons y ys ih =>
      rw [List.map_cons, List.map_cons, String.intercalate_cons_cons, ← List.map_cons]
      simp only [String.toList_append, List.append_assoc, ih, tail]
      rfl
  rw [array, String.toList_append, String.toList_append, List.append_assoc]
  exact congrArg ('[' :: ·) (hrest x xs)

lemma tail_inj {xs ys : List String} (h : tail xs = tail ys) : xs = ys := by
  induction xs generalizing ys with
  | nil =>
    cases ys with
    | nil => rfl
    | cons y ys => exact absurd (List.cons.inj h).1 (by decide)
  | cons x xs ih =>
    cases ys with
    | nil => exact absurd (List.cons.inj h).1 (by decide)
    | cons y ys =>
      obtain ⟨rfl, hrest⟩ := string_append_inj (List.cons.inj h).2
      rw [ih hrest]

/-- **An array tells its strings.** -/
theorem array_inj {xs ys : List String} (h : array (xs.map string) = array (ys.map string)) :
    xs = ys := by
  have h := congrArg String.toList h
  have hquote (x : String) (rest : List Char) : (string x).toList ++ rest ≠ [']'] := by
    simp [string]
  cases xs with
  | nil =>
    cases ys with
    | nil => rfl
    | cons y ys =>
      rw [toList_array_cons] at h
      exact absurd (List.cons.inj h).2.symm (hquote y _)
  | cons x xs =>
    cases ys with
    | nil =>
      rw [toList_array_cons] at h
      exact absurd (List.cons.inj h).2 (hquote x _)
    | cons y ys =>
      rw [toList_array_cons, toList_array_cons] at h
      obtain ⟨rfl, hrest⟩ := string_append_inj (List.cons.inj h).2
      rw [tail_inj hrest]

end Dirlang.Text.Json
