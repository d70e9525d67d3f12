import Mathlib
import Dirlang.Operand.Fold

/-!
Indexing arrays before a program runs.

An access takes the element at an index or, as a splat, all elements from there on. Operands are
folded access by access, as long as there are arrays. Splats add up: a chain of them leaves the
elements from the sum of the indexes on, and a negative index leaves none for good.
-/

namespace Dirlang

/-- An index into an array; a splat takes everything from there on. -/
structure Access where
  index : Int64
  splat : Bool

variable {α : Type}

/-- The item at an index, or the default if there is none. -/
def itemAt (xs : List α) (i : Int64) (default : α) : α :=
  if 0 ≤ i.toInt then xs.getD i.toInt.toNat default else default

/-- The items from an index on; none if it is outside. -/
def itemsFrom (xs : List α) (i : Int64) : List α :=
  if 0 ≤ i.toInt then xs.drop i.toInt.toNat else []

@[simp] lemma itemAt_nil (i : Int64) (a : α) : itemAt [] i a = a := by
  unfold itemAt
  split <;> simp

@[simp] lemma itemsFrom_nil (i : Int64) : itemsFrom ([] : List α) i = [] := by
  unfold itemsFrom
  split <;> simp

lemma mem_of_mem_itemsFrom {xs : List α} {i : Int64} {a : α} (h : a ∈ itemsFrom xs i) : a ∈ xs := by
  unfold itemsFrom at h
  split at h
  · exact List.mem_of_mem_drop h
  · simp at h

lemma itemAt_mem_or_eq (xs : List α) (i : Int64) (a : α) :
    itemAt xs i a ∈ xs ∨ itemAt xs i a = a := by
  unfold itemAt
  split
  · rw [List.getD_eq_getElem?_getD]
    rcases h : xs[i.toInt.toNat]? with _ | b
    · exact .inr rfl
    · exact .inl (List.mem_of_getElem? h)
  · exact .inr rfl

section Index

variable {i j : Int64} {n : ℕ} (xs : List α) (a : α)

lemma itemAt_of_nonneg (h : 0 ≤ i.toInt) : itemAt xs i a = xs.getD i.toInt.toNat a := if_pos h

lemma itemAt_of_neg (h : i.toInt < 0) : itemAt xs i a = a := if_neg (by omega)

lemma itemsFrom_of_nonneg (h : 0 ≤ i.toInt) : itemsFrom xs i = xs.drop i.toInt.toNat := if_pos h

lemma itemsFrom_of_neg (h : i.toInt < 0) : itemsFrom xs i = [] := if_neg (by omega)

lemma itemAt_drop (hj : 0 ≤ j.toInt) (hi : i.toInt = n + j.toInt) :
    itemAt (xs.drop n) j a = itemAt xs i a := by
  have hplace : i.toInt.toNat = n + j.toInt.toNat := by omega
  rw [itemAt_of_nonneg _ _ hj, itemAt_of_nonneg _ _ (by omega), hplace]
  simp only [List.getD_eq_getElem?_getD, List.getElem?_drop]

lemma itemsFrom_drop (hj : 0 ≤ j.toInt) (hi : i.toInt = n + j.toInt) :
    itemsFrom (xs.drop n) j = itemsFrom xs i := by
  have hplace : i.toInt.toNat = n + j.toInt.toNat := by omega
  rw [itemsFrom_of_nonneg _ hj, itemsFrom_of_nonneg _ (by omega), hplace, List.drop_drop]

end Index

namespace Operand

variable {x y : Operand} {xs : List Operand}

/-- Folds accesses one after the other. -/
def foldAll (x : Operand) : List Access → Option Operand
  | [] => some x
  | a :: accesses => (x.foldIndex (.int a.index) a.splat).bind (foldAll · accesses)

lemma fetch_eq (xs : List Operand) (i : Int64) (splat : Bool) :
    fetch xs i splat = if splat then .array (itemsFrom xs i) else itemAt xs i .nil := by
  have hplace : place? i = if 0 ≤ i.toInt then some i.toInt.toNat else none := by
    unfold place?
    cases i.toInt with
    | ofNat n => simp [Int.toNat?]
    | negSucc n => simp [Int.toNat?, Int.negSucc_not_nonneg]
  unfold fetch itemsFrom itemAt
  rw [hplace]
  split <;> split <;> simp

section Fetch

variable {i j : Int64} {n : ℕ} {splat : Bool}

lemma fetch_of_nonneg (h : 0 ≤ i.toInt) : fetch xs i splat =
    if splat then array (xs.drop i.toInt.toNat) else xs.getD i.toInt.toNat .nil := by
  rw [fetch_eq, itemsFrom_of_nonneg _ h, itemAt_of_nonneg _ _ h]

lemma fetch_of_neg (h : i.toInt < 0) : fetch xs i splat = if splat then array [] else .nil := by
  rw [fetch_eq, itemsFrom_of_neg _ h, itemAt_of_neg _ _ h]

@[simp] lemma fetch_nil : fetch [] i splat = if splat then array [] else .nil := by
  rw [fetch_eq, itemsFrom_nil, itemAt_nil]

lemma fetch_drop (hj : 0 ≤ j.toInt) (hi : i.toInt = n + j.toInt) :
    fetch (xs.drop n) j splat = fetch xs i splat := by
  rw [fetch_eq, fetch_eq, itemsFrom_drop _ hj hi, itemAt_drop _ _ hj hi]

end Fetch

lemma foldIndex_eq_some_iff {i : Int64} {splat : Bool} :
    x.foldIndex (.int i) splat = some y ↔ ∃ xs, x = .array xs ∧ y = fetch xs i splat := by
  cases x <;> simp [foldIndex, int, fetch?, elements?, eq_comm]

lemma foldIndex_eq_none_iff {index : Operand} {splat : Bool} :
    x.foldIndex index splat = none ↔ (∀ xs, x ≠ .array xs) ∨ ∀ i, index ≠ .int i := by
  rcases index with _ | _ | _ | _ <;> try simp [foldIndex, int]
  case literal l =>
    cases l with
    | int i => cases x <;> simp [fetch?, elements?]
    | _ => simp

lemma isSome_foldAll_iff (accesses : List Access) :
    (x.foldAll accesses).isSome ↔ ∀ before a rest, accesses = before ++ a :: rest →
      ∃ xs, x.foldAll before = some (.array xs) := by
  induction accesses generalizing x with
  | nil => simp [foldAll]
  | cons a accesses ih =>
    rcases hx : x.foldIndex (.int a.index) a.splat with _ | y
    · -- the first fold fails already, and nothing comes before it
      have hnot : ¬ ∃ xs, x = .array xs := by
        rintro ⟨xs, rfl⟩
        simp [foldIndex_eq_some_iff.mpr ⟨xs, rfl, rfl⟩] at hx
      simp only [foldAll, hx, Option.bind_none, Option.isSome_none, Bool.false_eq_true, false_iff]
      intro hall
      obtain ⟨xs, hxs⟩ := hall [] a accesses rfl
      exact hnot ⟨xs, Option.some.inj hxs⟩
    · -- the first fold succeeds, so what comes before a later access begins with it
      have harray : ∃ xs, x = .array xs := by
        obtain ⟨xs, hxs, -⟩ := foldIndex_eq_some_iff.mp hx
        exact ⟨xs, hxs⟩
      rw [foldAll, hx, Option.bind_some, ih]
      constructor
      · rintro hall (_ | ⟨a', before⟩) b rest hsplit
        · obtain ⟨xs, rfl⟩ := harray
          exact ⟨xs, rfl⟩
        · obtain ⟨rfl, hrest⟩ := List.cons.inj hsplit
          rw [foldAll, hx, Option.bind_some]
          exact hall before b rest hrest
      · intro hall before b rest hsplit
        have := hall (a :: before) b rest (by rw [hsplit]; rfl)
        rwa [foldAll, hx, Option.bind_some] at this

/-! ### Chains of splats -/

/-- Splats at indexes in turn. -/
def splats (is : List Int64) : List Access := is.map (⟨·, true⟩)

lemma foldAll_array_cons (xs : List Operand) (a : Access) (accesses : List Access) :
    (array xs).foldAll (a :: accesses) = (fetch xs a.index a.splat).foldAll accesses := rfl

lemma foldAll_array_singleton (xs : List Operand) (a : Access) :
    (array xs).foldAll [a] = some (fetch xs a.index a.splat) := rfl

lemma foldAll_splats_cons (xs : List Operand) (i : Int64) (is : List Int64)
    (accesses : List Access) :
    (array xs).foldAll (splats (i :: is) ++ accesses) =
      (array (itemsFrom xs i)).foldAll (splats is ++ accesses) := by
  rw [splats, List.map_cons, List.cons_append, foldAll_array_cons, fetch_eq, if_pos rfl, splats]

lemma foldAll_splats {is : List Int64} (h : ∀ i ∈ is, 0 ≤ i.toInt) (accesses : List Access) :
    (array xs).foldAll (splats is ++ accesses) =
      (array (xs.drop (is.map Int64.toInt).sum.toNat)).foldAll accesses := by
  induction is generalizing xs with
  | nil => rfl
  | cons i is ih =>
    obtain ⟨hi, his⟩ := List.forall_mem_cons.mp h
    have hsum : 0 ≤ (is.map Int64.toInt).sum := List.sum_nonneg (by simpa using his)
    rw [foldAll_splats_cons, ih his, itemsFrom_of_nonneg _ hi, List.drop_drop, List.map_cons,
      List.sum_cons, Int.toNat_add hi hsum]

lemma foldAll_splats_of_blank (is : List Int64) (accesses : List Access) :
    (array []).foldAll (splats is ++ accesses) = (array []).foldAll accesses := by
  induction is with
  | nil => rfl
  | cons i is ih => rw [foldAll_splats_cons, itemsFrom_nil, ih]

lemma foldAll_splats_of_neg {is : List Int64} (h : ∃ i ∈ is, i.toInt < 0)
    (accesses : List Access) :
    (array xs).foldAll (splats is ++ accesses) = (array []).foldAll accesses := by
  induction is generalizing xs with
  | nil => simp at h
  | cons i is ih =>
    rw [foldAll_splats_cons]
    obtain ⟨k, hk, hneg⟩ := h
    rcases List.mem_cons.mp hk with rfl | his
    · rw [itemsFrom_of_neg _ hneg, foldAll_splats_of_blank]
    · exact ih ⟨k, his, hneg⟩

lemma foldAll_chain_of_neg {is : List Int64} {j : Int64} (h : ∃ i ∈ is ++ [j], i.toInt < 0)
    (splat : Bool) : (array xs).foldAll (splats is ++ [⟨j, splat⟩]) =
      some (if splat then array [] else .nil) := by
  -- a negative index among the splats leaves the blank array for the last access
  by_cases his : ∃ i ∈ is, i.toInt < 0
  · rw [foldAll_splats_of_neg his, foldAll_array_singleton, fetch_nil]
  · have hj : j.toInt < 0 := by
      obtain ⟨i, hi, hlt⟩ := h
      rcases List.mem_append.mp hi with hmem | hmem
      · exact absurd ⟨i, hmem, hlt⟩ his
      · rwa [List.mem_singleton.mp hmem] at hlt
    push Not at his
    rw [foldAll_splats his, foldAll_array_singleton, fetch_of_neg hj]

lemma array_of_foldIndex_splat {index : Operand} (h : (array xs).foldIndex index true = some y) :
    ∃ ys, y = array ys := by
  by_cases hindex : ∃ i, index = int i
  · obtain ⟨i, rfl⟩ := hindex
    obtain ⟨ys, -, rfl⟩ := foldIndex_eq_some_iff.mp h
    exact ⟨itemsFrom ys i, by rw [fetch_eq, if_pos rfl]⟩
  · rw [foldIndex_eq_none_iff.mpr (.inr fun i hi => hindex ⟨i, hi⟩)] at h
    cases h

/-- **Folding a chain is adding up its indexes.** An array is folded by splats in turn, and then
once more. If no index is negative, this is folding it once by their sum: it gives the element
there, or nil past the end, or as a splat the elements from there on, of which there are none past
the end. After a negative index it gives nil and, as a splat, the blank array. Folding fails only
for want of an array or of an integer, and as a splat it always leaves an array. -/
theorem fold_chain (xs : List Operand) (is : List Int64) (j : Int64) (splat : Bool) :
    let chain := splats is ++ [⟨j, splat⟩]
    let sum := (is.map Int64.toInt).sum + j.toInt
    ((∀ i ∈ is, 0 ≤ i.toInt) → 0 ≤ j.toInt → sum ≤ 2 ^ 63 - 1 →
      (array xs).foldAll chain = (array xs).foldIndex (int (.ofInt sum)) splat ∧
      (array xs).foldAll chain =
        some (if splat then array (xs.drop sum.toNat) else xs.getD sum.toNat .nil)) ∧
    ((∃ i ∈ is ++ [j], i.toInt < 0) →
      (array xs).foldAll chain = some (if splat then array [] else .nil)) ∧
    (∀ x index : Operand, x.foldIndex index splat = none ↔
      (∀ ys, x ≠ array ys) ∨ ∀ i, index ≠ int i) ∧
    ∀ index y, (array xs).foldIndex index true = some y → ∃ ys, y = array ys := by
  intro chain sum
  refine ⟨fun his hj hsum => ?_, fun hneg => foldAll_chain_of_neg hneg splat,
    fun x index => foldIndex_eq_none_iff, fun index y => array_of_foldIndex_splat⟩
  have hnonneg : 0 ≤ (is.map Int64.toInt).sum := List.sum_nonneg (by simpa using his)
  have hsum_nonneg : 0 ≤ sum := Int.add_nonneg hnonneg hj
  have htoInt : (Int64.ofInt sum).toInt = sum := Int64.toInt_ofInt_of_le (by omega) (by omega)
  have hplace : (Int64.ofInt sum).toInt = ((is.map Int64.toInt).sum.toNat : ℤ) + j.toInt := by
    rw [htoInt, Int.toNat_of_nonneg hnonneg]
  have honce : (array xs).foldAll chain = some (fetch xs (.ofInt sum) splat) := by
    rw [foldAll_splats his, foldAll_array_singleton, fetch_drop hj hplace]
  refine ⟨honce, ?_⟩
  rw [honce, fetch_of_nonneg (by omega), htoInt]

/-- Three elements: two splats come to the end of the array and leave it blank, there is nothing
past the end, and a negative index leaves the array blank for good. -/
theorem fold_chain_past_end :
    let xs := [int 1, .var ⟨"x", none⟩, .array [.nil]]
    let is : List Int64 := [1]
    let j : Int64 := 2
    (∀ i ∈ is, 0 ≤ i.toInt) ∧ 0 ≤ j.toInt ∧ (is.map Int64.toInt).sum + j.toInt ≤ 2 ^ 63 - 1 ∧
      (array xs).foldAll [⟨1, true⟩, ⟨2, true⟩] = (array xs).foldIndex (int 3) true ∧
      (array xs).foldAll [⟨1, true⟩, ⟨2, true⟩] = some (array []) ∧
      (array xs).foldAll [⟨1, true⟩, ⟨2, false⟩] = some .nil ∧
      (array xs).foldAll [⟨1, true⟩, ⟨-1, true⟩, ⟨0, true⟩] = some (array []) := by
  intro xs is j
  have his : ∀ i ∈ is, 0 ≤ i.toInt := by simp [is]
  have hj : 0 ≤ j.toInt := by decide
  have hthree : (is.map Int64.toInt).sum + j.toInt = 3 := by decide
  have hsum : (is.map Int64.toInt).sum + j.toInt ≤ 2 ^ 63 - 1 := by rw [hthree]; norm_num
  obtain ⟨honce, hblank⟩ := (fold_chain xs is j true).1 his hj hsum
  have hnil := ((fold_chain xs is j false).1 his hj hsum).2
  rw [hthree] at honce hblank hnil
  have hneg := (fold_chain xs [1, -1] 0 true).2.1 ⟨-1, by decide, by decide⟩
  exact ⟨his, hj, hsum, honce, hblank, hnil, hneg⟩

end Operand

end Dirlang
