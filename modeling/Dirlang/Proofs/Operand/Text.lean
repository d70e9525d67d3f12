import Mathlib
import Dirlang.Operand.Text
import Dirlang.Proofs.Text.Quoted

/-!
Reading the text of an operand.

The first character tells the kind of the operand. Words and strings end by themselves, and a number
or the blank array ends where a comma, a bracket or nothing comes next, which is all that can come
after an element of an array. So no two operands have the same text, as long as there are no leaves
in them whose text is not marked off: a symbol or a variable may have any name, and doubles that are
no numbers look alike.
-/

namespace Dirlang.Operand

variable {x y : Operand} {xs ys : List Operand} {s t : List Char}

/-- All leaves are nil, booleans, integers and strings. -/
inductive Legible : Operand → Prop
  | nil : Legible .nil
  | bool (b : Bool) : Legible (.literal (.bool b))
  | int (i : Int64) : Legible (.literal (.int i))
  | str (s : String) : Legible (.literal (.str s))
  | array {xs : List Operand} (h : ∀ x ∈ xs, Legible x) : Legible (.array xs)

/-! ### The first character -/

inductive Kind
  | nil
  | bool
  | number
  | string
  | symbol
  | variable
  | array

def kind : Operand → Kind
  | .nil => .nil
  | .literal (.bool _) => .bool
  | .literal (.int _) | .literal (.float _) => .number
  | .literal (.str _) => .string
  | .literal (.symbol _) => .symbol
  | .var _ => .variable
  | .array _ => .array

/-- The kind of operand whose text begins with the character. -/
def Kind.ofLead : Char → Kind
  | 'n' => .nil
  | 't' | 'f' => .bool
  | '"' => .string
  | ':' => .symbol
  | '%' => .variable
  | 'A' => .array
  | _ => .number

/-- The characters of integers. -/
def isNumeric (c : Char) : Bool := c.isDigit || c = '-'

lemma Kind.ofLead_of_isNumeric {c : Char} (h : isNumeric c) : ofLead c = .number := by
  unfold ofLead
  split <;> first | rfl | exact absurd h (by decide)

lemma toList_repr_negSucc (n : ℕ) : (Int.negSucc n).repr.toList = '-' :: (n + 1).repr.toList := by
  simp [Int.repr]

lemma toList_repr_ne_nil (i : ℤ) : i.repr.toList ≠ [] := by
  cases i with
  | ofNat n =>
    change n.repr.toList ≠ []
    rw [Nat.repr_eq_ofList_toDigits, String.toList_ofList]
    exact Nat.toDigits_ne_nil
  | negSucc n =>
    rw [toList_repr_negSucc]
    exact List.cons_ne_nil _ _

lemma isNumeric_of_mem_repr {i : ℤ} {c : Char} (h : c ∈ i.repr.toList) : isNumeric c := by
  have hnat (n : ℕ) (h : c ∈ n.repr.toList) : isNumeric c := by
    rw [Nat.repr_eq_ofList_toDigits, String.toList_ofList] at h
    have hdigit := Nat.isDigit_of_mem_toDigits (by decide) (by decide) h
    simp [isNumeric, hdigit]
  cases i with
  | ofNat n => exact hnat n h
  | negSucc n =>
    rw [toList_repr_negSucc] at h
    rcases List.mem_cons.mp h with rfl | h
    · rfl
    · exact hnat (n + 1) h

lemma toList_text_cons (x : Operand) (xs : List Operand) :
    (text (.array (x :: xs))).toList =
      "Array:[".toList ++ (x.text.toList ++ ((textMore xs).toList ++ [']'])) := by
  simp [text]

lemma Legible.exists_lead (hx : x.Legible) :
    ∃ c rest, x.text.toList = c :: rest ∧ Kind.ofLead c = x.kind := by
  cases hx with
  | nil => exact ⟨_, _, rfl, rfl⟩
  | bool b => cases b <;> exact ⟨_, _, rfl, rfl⟩
  | int i =>
    obtain ⟨c, rest, hc⟩ := List.exists_cons_of_ne_nil (toList_repr_ne_nil i.toInt)
    have hnumeric : isNumeric c := isNumeric_of_mem_repr (i := i.toInt) (by simp [hc])
    exact ⟨c, rest, hc, Kind.ofLead_of_isNumeric hnumeric⟩
  | str x => exact ⟨_, _, Text.toList_quoted x, rfl⟩
  | @array xs _ =>
    cases xs with
    | nil => exact ⟨_, _, rfl, rfl⟩
    | cons x xs => exact ⟨_, _, toList_text_cons x xs, rfl⟩

lemma Legible.kind_eq (hx : x.Legible) (hy : y.Legible)
    (h : x.text.toList ++ s = y.text.toList ++ t) : x.kind = y.kind := by
  obtain ⟨c, rest, hc, hxkind⟩ := hx.exists_lead
  obtain ⟨d, more, hd, hykind⟩ := hy.exists_lead
  rw [hc, hd] at h
  obtain ⟨rfl, -⟩ := List.cons.inj h
  exact hxkind.symm.trans hykind

/-! ### The whole text -/

/-- A comma, a bracket or nothing comes next. -/
def Ends (s : List Char) : Prop := ∀ c ∈ s.head?, c = ',' ∨ c = ']'

/-- No text that ends begins like that of the operand, unless it is of the same operand. -/
def Distinct (x : Operand) : Prop :=
  ∀ ⦃y : Operand⦄ ⦃s t : List Char⦄, y.Legible → Ends s → Ends t →
    x.text.toList ++ s = y.text.toList ++ t → x = y ∧ s = t

lemma toList_textMore_cons (x : Operand) (xs : List Operand) :
    (textMore (x :: xs)).toList = ',' :: ' ' :: (x.text.toList ++ (textMore xs).toList) := by
  simp [textMore]

lemma ends_textMore (xs : List Operand) (s : List Char) :
    Ends ((textMore xs).toList ++ ']' :: s) := by
  cases xs with
  | nil => simp [Ends, textMore]
  | cons x xs => simp [Ends, toList_textMore_cons]

lemma textMore_append_inj (hxs : ∀ x ∈ xs, x.Distinct) (hys : ∀ y ∈ ys, y.Legible)
    (h : (textMore xs).toList ++ ']' :: s = (textMore ys).toList ++ ']' :: t) :
    xs = ys ∧ s = t := by
  induction xs generalizing ys with
  | nil =>
    cases ys with
    | nil => exact ⟨rfl, (List.cons.inj h).2⟩
    | cons y ys =>
      rw [toList_textMore_cons] at h
      exact absurd (List.cons.inj h).1 (by decide)
  | cons x xs ih =>
    cases ys with
    | nil =>
      rw [toList_textMore_cons] at h
      exact absurd (List.cons.inj h).1 (by decide)
    | cons y ys =>
      rw [List.forall_mem_cons] at hxs hys
      have hafter : x.text.toList ++ ((textMore xs).toList ++ ']' :: s) =
          y.text.toList ++ ((textMore ys).toList ++ ']' :: t) := by
        simpa [toList_textMore_cons] using h
      obtain ⟨rfl, hrest⟩ := hxs.1 hys.1 (ends_textMore xs s) (ends_textMore ys t) hafter
      obtain ⟨rfl, rfl⟩ := ih hxs.2 hys.2 hrest
      exact ⟨rfl, rfl⟩

lemma text_array_append_inj (hxs : ∀ x ∈ xs, x.Distinct) (hys : ∀ y ∈ ys, y.Legible)
    (hs : Ends s) (ht : Ends t)
    (h : (text (.array xs)).toList ++ s = (text (.array ys)).toList ++ t) :
    xs = ys ∧ s = t := by
  have hopen (u : List Char) : ¬ Ends ('[' :: u) := fun hu => absurd (hu '[' rfl) (by decide)
  -- a blank array has no bracket, and none can follow it
  cases xs with
  | nil =>
    cases ys with
    | nil => exact ⟨rfl, List.append_cancel_left h⟩
    | cons y ys =>
      rw [toList_text_cons] at h
      obtain rfl : s = '[' :: _ := (List.append_right_inj "Array:".toList).mp h
      exact absurd hs (hopen _)
  | cons x xs =>
    cases ys with
    | nil =>
      rw [toList_text_cons] at h
      obtain rfl : '[' :: _ = t := (List.append_right_inj "Array:".toList).mp h
      exact absurd ht (hopen _)
    | cons y ys =>
      rw [List.forall_mem_cons] at hxs hys
      -- behind the bracket: the first elements, then the others up to the one that closes
      have hafter : x.text.toList ++ ((textMore xs).toList ++ ']' :: s) =
          y.text.toList ++ ((textMore ys).toList ++ ']' :: t) := by
        simpa [toList_text_cons] using h
      obtain ⟨rfl, hrest⟩ := hxs.1 hys.1 (ends_textMore xs s) (ends_textMore ys t) hafter
      obtain ⟨rfl, rfl⟩ := textMore_append_inj hxs.2 hys.2 hrest
      exact ⟨rfl, rfl⟩

lemma repr_append_inj {i j : ℤ} (hs : Ends s) (ht : Ends t)
    (h : i.repr.toList ++ s = j.repr.toList ++ t) : i = j ∧ s = t := by
  have hends {u : List Char} (hu : Ends u) : ∀ c ∈ u.head?, ¬ isNumeric c := by
    intro c hc
    rcases hu c hc with rfl | rfl <;> decide
  obtain ⟨hij, rfl⟩ := Text.append_inj_of_run (p := (isNumeric ·))
    (fun _ => isNumeric_of_mem_repr) (fun _ => isNumeric_of_mem_repr) (hends hs) (hends ht) h
  exact ⟨Int.repr_inj.mp (String.toList_inj.mp hij), rfl⟩

lemma bool_append_inj {a b : Bool}
    (h : (text (.literal (.bool a))).toList ++ s = (text (.literal (.bool b))).toList ++ t) :
    a = b ∧ s = t := by
  cases a <;> cases b
  · exact ⟨rfl, List.append_cancel_left h⟩
  · exact absurd (List.cons.inj h).1 (by decide)
  · exact absurd (List.cons.inj h).1 (by decide)
  · exact ⟨rfl, List.append_cancel_left h⟩

lemma Legible.distinct (hx : x.Legible) : x.Distinct := by
  induction hx with
  | nil =>
    intro y s t hy hs ht h
    have hkind := Legible.nil.kind_eq hy h
    cases hy with
    | nil => exact ⟨rfl, List.append_cancel_left h⟩
    | _ => cases hkind
  | bool a =>
    intro y s t hy hs ht h
    have hkind := (Legible.bool a).kind_eq hy h
    cases hy with
    | bool b =>
      obtain ⟨rfl, rfl⟩ := bool_append_inj h
      exact ⟨rfl, rfl⟩
    | _ => cases hkind
  | int i =>
    intro y s t hy hs ht h
    have hkind := (Legible.int i).kind_eq hy h
    cases hy with
    | int j =>
      obtain ⟨hij, rfl⟩ := repr_append_inj hs ht h
      obtain rfl := Int64.toInt_inj.mp hij
      exact ⟨rfl, rfl⟩
    | _ => cases hkind
  | str a =>
    intro y s t hy hs ht h
    have hkind := (Legible.str a).kind_eq hy h
    cases hy with
    | str b =>
      obtain ⟨rfl, rfl⟩ := Text.quoted_append_inj h
      exact ⟨rfl, rfl⟩
    | _ => cases hkind
  | array hxs ih =>
    intro y s t hy hs ht h
    have hkind := (Legible.array hxs).kind_eq hy h
    cases hy with
    | array hys =>
      obtain ⟨rfl, rfl⟩ := text_array_append_inj ih hys hs ht h
      exact ⟨rfl, rfl⟩
    | _ => cases hkind

/-- **The text of an operand is unambiguous.** Operands whose leaves are nil, booleans, integers and
strings have the same text only if they are the same. -/
theorem text_inj (hx : x.Legible) (hy : y.Legible) : x.text = y.text ↔ x = y := by
  constructor
  · intro h
    have hlist : x.text.toList ++ [] = y.text.toList ++ [] := by rw [h]
    exact (hx.distinct hy (by simp [Ends]) (by simp [Ends]) hlist).1
  · rintro rfl
    rfl

/-- One string that holds a quote, a comma and the escape of a combining character is not taken for
two strings, the second of them that character. -/
theorem text_inj_imitating :
    let two : Operand := .array [.literal (.str "a"), .literal (.str "\u0301")]
    let one : Operand := .array [.literal (.str "a\", \"\\u\x7b301\x7d")]
    two.Legible ∧ one.Legible ∧ two.text ≠ one.text := by
  intro two one
  have htwo : two.Legible := .array (by simp [Legible.str])
  have hone : one.Legible := .array (by simp [Legible.str])
  refine ⟨htwo, hone, fun h => ?_⟩
  have hsame : two = one := (text_inj htwo hone).mp h
  simp [two, one] at hsame

/-- Names are not marked off. -/
example : text (.array [.literal (.symbol "a, :b")]) =
    text (.array [.literal (.symbol "a"), .literal (.symbol "b")]) := by decide

end Dirlang.Operand
