import Mathlib
import Dirlang.Path.Basic
import Dirlang.Proofs.Path.Components

/-!
Joining paths.

A path that is not absolute is put behind its base, which is closed by a slash first unless it ends
in one or is empty. Closing a path is done once for all, so it makes no difference in which order
three paths are joined. Texts and the bytes of texts are joined alike.
-/

namespace Dirlang.Path

variable {a b c : String}

/-- The path as it stands before another piece. -/
def closed (p : String) : String := if isClosed p then p else p ++ "/"

lemma resolve_of_not_absolute (h : ¬ isAbsolute b) : resolve a b = closed a ++ b := by
  unfold resolve closed
  rw [if_neg h]
  split <;> rfl

lemma toList_ne_nil (h : a ≠ "") : a.toList ≠ [] := by
  simpa using h

lemma isAbsolute_append_of_ne (h : a ≠ "") (b : String) : isAbsolute (a ++ b) = isAbsolute a := by
  obtain ⟨c, rest, hc⟩ := List.exists_cons_of_ne_nil (toList_ne_nil h)
  simp [isAbsolute, hc]

lemma isClosed_append_of_ne (a : String) (h : b ≠ "") : isClosed (a ++ b) = isClosed b := by
  have hlast := List.getLast?_append_of_ne_nil a.toList (toList_ne_nil h)
  have hempty : b.isEmpty = false := by simpa using h
  have happend : (a ++ b).isEmpty = false := by simp [h]
  rw [isClosed, isClosed, String.toList_append, hlast, hempty, happend]

lemma closed_empty : closed "" = "" := rfl

lemma closed_ne_empty (h : a ≠ "") : closed a ≠ "" := by
  unfold closed
  split
  · exact h
  · simp

lemma isClosed_closed (a : String) : isClosed (closed a) := by
  unfold closed
  split
  · assumption
  · exact isClosed_append_of_ne a (by decide)

lemma isAbsolute_closed (a : String) : isAbsolute (closed a) = isAbsolute a := by
  by_cases h : a = ""
  · rw [h, closed_empty]
  · unfold closed
    split
    · rfl
    · exact isAbsolute_append_of_ne h "/"

lemma closed_closed_append (a b : String) : closed (closed a ++ b) = closed a ++ closed b := by
  by_cases h : b = ""
  · rw [h, closed_empty, String.append_empty, closed, if_pos (isClosed_closed a)]
  · rw [closed, isClosed_append_of_ne _ h, closed.eq_def b]
    split
    · rfl
    · exact String.append_assoc

lemma isAbsolute_resolve (a b : String) :
    isAbsolute (resolve a b) ↔ isAbsolute a ∨ isAbsolute b := by
  by_cases hb : isAbsolute b
  · simp [resolve_absolute hb, hb]
  · rw [resolve_of_not_absolute hb]
    by_cases ha : a = ""
    · subst ha
      simp [closed_empty, isAbsolute]
    · rw [isAbsolute_append_of_ne (closed_ne_empty ha), isAbsolute_closed]
      simp [hb]

/-- Paths are joined from the left or from the right alike. -/
lemma resolve_resolve (a b c : String) : resolve (resolve a b) c = resolve a (resolve b c) := by
  by_cases hc : isAbsolute c
  · rw [resolve_absolute hc, resolve_absolute hc, resolve_absolute hc]
  by_cases hb : isAbsolute b
  · have habsolute : isAbsolute (resolve b c) := (isAbsolute_resolve b c).mpr (.inl hb)
    rw [resolve_absolute hb, resolve_absolute habsolute]
  · have hrelative : ¬ isAbsolute (resolve b c) := by simp [isAbsolute_resolve, hb, hc]
    calc resolve (resolve a b) c
        = closed (closed a ++ b) ++ c := by
          rw [resolve_of_not_absolute hc, resolve_of_not_absolute hb]
      _ = closed a ++ (closed b ++ c) := by rw [closed_closed_append, String.append_assoc]
      _ = resolve a (resolve b c) := by
          rw [resolve_of_not_absolute hrelative, resolve_of_not_absolute hc]

end Dirlang.Path

/-! ### The bytes of joined texts -/

namespace Dirlang.RawPath

open Dirlang.Text

variable {c : Char}

lemma utf8EncodeChar_ne_nil (c : Char) : String.utf8EncodeChar c ≠ [] :=
  List.ne_nil_of_length_pos (String.length_utf8EncodeChar c ▸ c.utf8Size_pos)

lemma isAbsolute_utf8 (t : String) : isAbsolute (utf8 t) = Path.isAbsolute t := by
  rw [isAbsolute, Path.isAbsolute, utf8, decide_eq_decide]
  rcases t.toList with _ | ⟨c, cs⟩
  · simp
  rw [List.flatMap_cons, List.head?_append_of_ne_nil _ (utf8EncodeChar_ne_nil c), List.head?_cons,
    Option.some.injEq]
  constructor
  · exact fun h => slash_mem_utf8EncodeChar_iff.mp (List.mem_of_mem_head? h)
  · rintro rfl
    rfl

lemma isClosed_utf8 (t : String) : isClosed (utf8 t) = Path.isClosed t := by
  by_cases ht : t = ""
  · subst ht
    rfl
  obtain ⟨cs, c, hcs⟩ := List.eq_nil_or_concat' t.toList |>.resolve_left (Path.toList_ne_nil ht)
  have hlast : (String.utf8EncodeChar c).getLast? = some slash ↔ c = '/' := by
    constructor
    · exact fun h => slash_mem_utf8EncodeChar_iff.mp (List.mem_of_getLast? h)
    · rintro rfl
      rfl
  have hempty : t.isEmpty = false := by simpa using ht
  have hutf8 : utf8 t = cs.flatMap String.utf8EncodeChar ++ String.utf8EncodeChar c := by
    simp [utf8, hcs]
  rw [isClosed, Path.isClosed, hutf8, hempty, hcs]
  simp [List.getLast?_append_of_ne_nil _ (utf8EncodeChar_ne_nil c), hlast]

lemma join_utf8 (a b : String) : join (utf8 a) (utf8 b) = utf8 (Path.resolve a b) := by
  rw [join, Path.resolve, isAbsolute_utf8, isClosed_utf8]
  split_ifs
  · rfl
  · rw [utf8_append]
  · rw [utf8_append, utf8_append, List.append_assoc]
    rfl

end Dirlang.RawPath
