import Mathlib
import Dirlang.Text.Quoted
import Dirlang.Proofs.Text.Escaping

/-!
Reading quoted text: what is not written by a letter has its code point between braces, which tell
where the digits end.
-/

namespace Dirlang.Text

variable {c : Char} {s t u v : List Char}

lemma append_inj_of_run {p : Char → Prop} (hu : ∀ c ∈ u, p c) (hv : ∀ c ∈ v, p c)
    (hs : ∀ c ∈ s.head?, ¬ p c) (ht : ∀ c ∈ t.head?, ¬ p c) (h : u ++ s = v ++ t) :
    u = v ∧ s = t := by
  induction u generalizing v with
  | nil =>
    -- if the other run is longer, its next character is the first one after this run
    cases v with
    | nil => exact ⟨rfl, h⟩
    | cons d v =>
      obtain rfl : s = d :: (v ++ t) := h
      exact absurd (hv d List.mem_cons_self) (hs d rfl)
  | cons c u ih =>
    cases v with
    | nil =>
      obtain rfl : c :: (u ++ s) = t := h
      exact absurd (hu c List.mem_cons_self) (ht c rfl)
    | cons d v =>
      obtain ⟨rfl, hrest⟩ := List.cons.inj h
      obtain ⟨rfl, rfl⟩ := ih (fun c hc => hu c (List.mem_cons_of_mem _ hc))
        (fun c hc => hv c (List.mem_cons_of_mem _ hc)) hrest
      exact ⟨rfl, rfl⟩

/-! ### Hexadecimal -/

lemma digitChar_inj {m n : ℕ} (hm : m < 16) (hn : n < 16) (h : m.digitChar = n.digitChar) :
    m = n := by
  have hdigits : ∀ m < 16, ∀ n < 16, m.digitChar = n.digitChar → m = n := by decide
  exact hdigits m hm n hn h

lemma toDigits_inj {m n : ℕ} (h : Nat.toDigits 16 m = Nat.toDigits 16 n) : m = n := by
  induction m using Nat.strongRecOn generalizing n with
  | ind m ih =>
    rw [Nat.toDigits_eq_if (by decide), Nat.toDigits_eq_if (n := n) (by decide)] at h
    split at h <;> split at h
    · next hm hn => exact digitChar_inj hm hn (List.singleton_inj.mp h)
    · -- one digit against several
      have hlength := congrArg List.length h
      simp [Nat.toDigits_ne_nil] at hlength
    · have hlength := congrArg List.length h
      simp [Nat.toDigits_ne_nil] at hlength
    · next hm hn =>
      obtain ⟨hhigh, hlow⟩ := List.append_inj' h rfl
      have hhigh : m / 16 = n / 16 := ih _ (by omega) hhigh
      have hlow : m % 16 = n % 16 :=
        digitChar_inj (Nat.mod_lt _ (by decide)) (Nat.mod_lt _ (by decide))
          (List.singleton_inj.mp hlow)
      omega

lemma ne_brace_of_mem_toDigits {n : ℕ} (h : c ∈ Nat.toDigits 16 n) : c ≠ '\x7d' := by
  induction n using Nat.strongRecOn with
  | ind n ih =>
    rw [Nat.toDigits_eq_if (by decide)] at h
    split at h
    · rw [List.mem_singleton.mp h]
      exact Nat.digitChar_ne _ rfl
    · rcases List.mem_append.mp h with h | h
      · exact ih _ (by omega) h
      · rw [List.mem_singleton.mp h]
        exact Nat.digitChar_ne _ rfl

/-! ### Escaping -/

def readable : Escaping where
  letters := [('"', '"'), ('\\', '\\'), ('\n', 'n'), ('\r', 'r'), ('\t', 't'), ('\x00', '0')]
  isCoded _ := True
  code c := '\x7b' :: Nat.toDigits 16 c.toNat ++ ['\x7d']
  letter_inj := by decide
  letter_ne := by decide
  code_inj c d s t _ _ h := by
    have h : Nat.toDigits 16 c.toNat ++ '\x7d' :: s = Nat.toDigits 16 d.toNat ++ '\x7d' :: t := by
      simpa using h
    obtain ⟨hdigits, hrest⟩ := append_inj_of_run (p := (· ≠ '\x7d'))
      (fun _ => ne_brace_of_mem_toDigits) (fun _ => ne_brace_of_mem_toDigits) (by simp) (by simp) h
    exact ⟨Char.toNat_inj.mp (toDigits_inj hdigits), (List.cons.inj hrest).2⟩

lemma writes_escape (c : Char) : readable.Writes c (escape c) := by
  unfold escape
  split
  · next hplain =>
    simp only [isPlain, Bool.and_eq_true, decide_eq_true_eq] at hplain
    exact .raw hplain.1.2 hplain.2
  · split
    any_goals exact .letter (by decide)
    split
    · exact .code trivial
    · next hquote hbackslash _ _ _ _ _ => exact .raw hquote hbackslash

lemma toList_quoted (x : String) :
    (quoted x).toList = '"' :: x.toList.flatMap escape ++ ['"'] := String.toList_ofList

lemma quoted_append_inj {x y : String}
    (h : (quoted x).toList ++ s = (quoted y).toList ++ t) : x = y ∧ s = t := by
  rw [toList_quoted, toList_quoted] at h
  exact Escaping.quoted_inj writes_escape h

end Dirlang.Text
