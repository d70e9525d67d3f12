import Mathlib

/-!
Reading text between quotes.

Each character is written in a way that tells where it ends and which character it is: as itself,
by a letter after a backslash, or by a code. So a quoted text that stands before anything else can
be read in one way only.
-/

namespace Dirlang.Text

variable {c d : Char} {s t u v : List Char}

/-- How characters are written that do not stand for themselves: some by a letter after a backslash,
others by a code after a backslash and `u`. -/
structure Escaping where
  letters : List (Char × Char)
  isCoded : Char → Prop
  code : Char → List Char
  letter_inj : ∀ p ∈ letters, ∀ q ∈ letters, p.2 = q.2 → p.1 = q.1
  letter_ne : ∀ p ∈ letters, p.2 ≠ 'u'
  code_inj : ∀ c d s t, isCoded c → isCoded d → code c ++ s = code d ++ t → c = d ∧ s = t

namespace Escaping

/-- The ways to write a character between quotes. -/
inductive Writes (e : Escaping) : Char → List Char → Prop
  | raw {c : Char} (hquote : c ≠ '"') (hbackslash : c ≠ '\\') : Writes e c [c]
  | letter {c k : Char} (h : (c, k) ∈ e.letters) : Writes e c ['\\', k]
  | code {c : Char} (h : e.isCoded c) : Writes e c ('\\' :: 'u' :: e.code c)

variable {e : Escaping}

lemma Writes.append_inj (hu : e.Writes c u) (hv : e.Writes d v) (h : u ++ s = v ++ t) :
    c = d ∧ s = t := by
  cases hu with
  | raw hquote hbackslash =>
    cases hv with
    | raw _ _ => exact List.cons.inj h
    | letter _ | code _ => exact absurd (List.cons.inj h).1 hbackslash
  | letter hk =>
    cases hv with
    | raw _ hbackslash => exact absurd (List.cons.inj h).1.symm hbackslash
    | letter hl =>
      obtain ⟨hletter, hrest⟩ := List.cons.inj (List.cons.inj h).2
      exact ⟨e.letter_inj _ hk _ hl hletter, hrest⟩
    | code _ => exact absurd (List.cons.inj (List.cons.inj h).2).1 (e.letter_ne _ hk)
  | code hc =>
    cases hv with
    | raw _ hbackslash => exact absurd (List.cons.inj h).1.symm hbackslash
    | letter hl => exact absurd (List.cons.inj (List.cons.inj h).2).1.symm (e.letter_ne _ hl)
    | code hd => exact e.code_inj _ _ _ _ hc hd (List.cons.inj (List.cons.inj h).2).2

-- nothing that stands for a character begins with the closing quote
lemma Writes.append_ne_quote (hu : e.Writes c u) : u ++ s ≠ '"' :: t := by
  cases hu with
  | raw hquote _ => exact fun h => hquote (List.cons.inj h).1
  | letter _ | code _ => exact fun h => absurd (List.cons.inj h).1 (by decide)

lemma flatMap_append_quote_inj {escape : Char → List Char} (hescape : ∀ c, e.Writes c (escape c))
    {cs ds : List Char} (h : cs.flatMap escape ++ '"' :: s = ds.flatMap escape ++ '"' :: t) :
    cs = ds ∧ s = t := by
  induction cs generalizing ds with
  | nil =>
    cases ds with
    | nil => exact ⟨rfl, (List.cons.inj h).2⟩
    | cons d ds =>
      rw [List.flatMap_cons, List.append_assoc] at h
      exact absurd h.symm (hescape d).append_ne_quote
  | cons c cs ih =>
    cases ds with
    | nil =>
      rw [List.flatMap_cons, List.append_assoc] at h
      exact absurd h (hescape c).append_ne_quote
    | cons d ds =>
      rw [List.flatMap_cons, List.flatMap_cons, List.append_assoc, List.append_assoc] at h
      obtain ⟨rfl, hrest⟩ := (hescape c).append_inj (hescape d) h
      obtain ⟨rfl, rfl⟩ := ih hrest
      exact ⟨rfl, rfl⟩

/-- Whatever comes after a quoted text, it tells the string, and where it ends. -/
lemma quoted_inj {escape : Char → List Char} (hescape : ∀ c, e.Writes c (escape c)) {x y : String}
    (h : '"' :: x.toList.flatMap escape ++ ['"'] ++ s =
      '"' :: y.toList.flatMap escape ++ ['"'] ++ t) : x = y ∧ s = t := by
  simp only [List.append_assoc, List.cons_append, List.cons.injEq, true_and] at h
  obtain ⟨hxy, rfl⟩ := flatMap_append_quote_inj hescape h
  exact ⟨String.toList_inj.mp hxy, rfl⟩

end Escaping

end Dirlang.Text
