import Mathlib
import Dirlang.Constant.Pool
import Dirlang.Proofs.Operand.Constancy

/-!
Pools over whole runs.

A pool holds the constants of the run, each once, in the order in which they came first. New ones
go to the end, so the place of a constant is its position among them, once and for all. Places are
32 bits wide: they tell constants apart as long as there are no more than there are places.
-/

namespace Dirlang.Pool

open Operand

/-- The pool after operands in a row. -/
def internAll (p : Pool) (xs : List Operand) : Pool := xs.foldl (fun p x => (p.intern x).2) p

/-- The answers to operands in a row. -/
def answers (p : Pool) : List Operand → List (Option UInt32)
  | [] => []
  | x :: xs => (p.intern x).1 :: (p.intern x).2.answers xs

variable {p : Pool} {c : Constant} {xs : List Operand}

@[simp] lemma internAll_nil (p : Pool) : p.internAll [] = p := rfl
@[simp] lemma internAll_cons (p : Pool) (x : Operand) (xs : List Operand) :
    p.internAll (x :: xs) = (p.intern x).2.internAll xs := rfl
@[simp] lemma internAll_append (p : Pool) (xs ys : List Operand) :
    p.internAll (xs ++ ys) = (p.internAll xs).internAll ys := by
  simp [internAll, List.foldl_append]

lemma getElem?_answers (p : Pool) (xs : List Operand) (n : ℕ) :
    (p.answers xs)[n]? = xs[n]?.map fun x => ((p.internAll (xs.take n)).intern x).1 := by
  induction xs generalizing p n with
  | nil => rfl
  | cons x xs ih =>
    cases n with
    | zero => rfl
    | succ n => exact ih (p.intern x).2 n

/-! ### One constant -/

abbrev list (p : Pool) : List Constant := p.constants.toList

lemma findIdx?_same (p : Pool) (c : Constant) :
    p.constants.findIdx? (Constant.same · c) = p.list.idxOf? c := by
  have hsame : (fun d => Constant.same d c) = (· == c) := by
    funext d
    rw [Bool.eq_iff_iff, Constant.same_iff, beq_iff_eq]
  rw [hsame, List.idxOf?]
  exact List.findIdx?_toArray (· == c) p.list

lemma place_of_mem (h : c ∈ p.list) : p.place c = (.ofNat (p.list.idxOf c), p) := by
  rw [place, findIdx?_same]
  have hidx : p.list.idxOf? c = some (p.list.idxOf c) := by
    rw [List.idxOf?_eq_some_iff]
    refine ⟨List.idxOf_lt_length_iff.mpr h, List.getElem_idxOf _, fun j hj hc => ?_⟩
    exact absurd (List.not_of_lt_findIdx hj) (by simp [hc])
  rw [hidx]

lemma place_of_notMem (h : c ∉ p.list) :
    p.place c = (.ofNat p.list.length, ⟨p.constants.push c⟩) := by
  have hidx : p.list.idxOf? c = none := List.idxOf?_eq_none_iff.mpr h
  rw [place, findIdx?_same, hidx]
  rfl

lemma list_place (p : Pool) (c : Constant) :
    (p.place c).2.list = if c ∈ p.list then p.list else p.list ++ [c] := by
  split
  · next h => rw [place_of_mem h]
  · next h => simp [place_of_notMem h, list]

lemma place_fst (p : Pool) (c : Constant) :
    (p.place c).1 = .ofNat ((p.place c).2.list.idxOf c) := by
  rw [list_place]
  split
  · next h => rw [place_of_mem h]
  · next h =>
    rw [place_of_notMem h, List.idxOf_append_of_notMem h]
    simp

lemma mem_list_place (p : Pool) (c : Constant) : c ∈ (p.place c).2.list := by
  rw [list_place]
  split <;> simp_all

lemma intern_of_some {x : Operand} (h : x.toConstant? = some c) :
    p.intern x = (some (p.place c).1, (p.place c).2) := by
  simp [intern, h]

lemma intern_of_none {x : Operand} (h : x.toConstant? = none) : p.intern x = (none, p) := by
  simp [intern, h]

/-! ### Runs -/

lemma nodup_intern (h : p.list.Nodup) (x : Operand) : (p.intern x).2.list.Nodup := by
  rcases hx : x.toConstant? with _ | c
  · rwa [intern_of_none hx]
  · rw [intern_of_some hx, list_place]
    split
    · exact h
    · next hc =>
      rw [List.nodup_append_comm]
      exact List.nodup_cons.mpr ⟨hc, h⟩

lemma nodup_internAll (h : p.list.Nodup) (xs : List Operand) : (p.internAll xs).list.Nodup := by
  induction xs generalizing p with
  | nil => exact h
  | cons x xs ih => exact ih (nodup_intern h x)

lemma list_prefix_intern (p : Pool) (x : Operand) : p.list <+: (p.intern x).2.list := by
  rcases hx : x.toConstant? with _ | c
  · rw [intern_of_none hx]
  · rw [intern_of_some hx, list_place]
    split
    · exact List.prefix_rfl
    · exact List.prefix_append _ _

lemma list_prefix_internAll (p : Pool) (xs : List Operand) : p.list <+: (p.internAll xs).list := by
  induction xs generalizing p with
  | nil => exact List.prefix_rfl
  | cons x xs ih => exact (list_prefix_intern p x).trans (ih _)

lemma intern_fst_of_some {x : Operand} (hc : x.toConstant? = some c) (p : Pool)
    (after : List Operand) :
    c ∈ (p.internAll (x :: after)).list ∧
      (p.intern x).1 = some (.ofNat ((p.internAll (x :: after)).list.idxOf c)) := by
  have hmem : c ∈ (p.intern x).2.list := by
    rw [intern_of_some hc]
    exact mem_list_place p c
  have hgrown := list_prefix_internAll (p.intern x).2 after
  refine ⟨hgrown.subset hmem, ?_⟩
  rw [internAll_cons, ← hgrown.idxOf_eq_of_mem hmem, intern_of_some hc, place_fst]

lemma getElem?_answers_of_some {n : ℕ} {x : Operand} (hn : xs[n]? = some x)
    (hc : x.toConstant? = some c) (p : Pool) :
    c ∈ (p.internAll xs).list ∧
      (p.answers xs)[n]? = some (some (.ofNat ((p.internAll xs).list.idxOf c))) := by
  have hsplit : xs = xs.take n ++ x :: xs.drop (n + 1) := by
    obtain ⟨hlt, rfl⟩ := List.getElem?_eq_some_iff.mp hn
    rw [List.getElem_cons_drop, List.take_append_drop]
  have hplace := intern_fst_of_some hc (p.internAll (xs.take n)) (xs.drop (n + 1))
  rw [← internAll_append, ← hsplit] at hplace
  rw [getElem?_answers, hn, Option.map_some, hplace.2]
  exact ⟨hplace.1, rfl⟩

/-! ### Room for all constants -/

section Room

variable (hroom : p.list.length ≤ 2 ^ 32)
include hroom

lemma toNat_ofNat_idxOf (hc : c ∈ p.list) :
    (UInt32.ofNat (p.list.idxOf c)).toNat = p.list.idxOf c :=
  UInt32.toNat_ofNat_of_lt' ((List.idxOf_lt_length_of_mem hc).trans_le hroom)

lemma get?_ofNat_idxOf (hc : c ∈ p.list) : p.get? (.ofNat (p.list.idxOf c)) = some c := by
  rw [get?, toNat_ofNat_idxOf hroom hc, ← Array.getElem?_toList]
  exact List.getElem?_idxOf hc

lemma ofNat_idxOf_inj {d : Constant} (hc : c ∈ p.list) (hd : d ∈ p.list) :
    UInt32.ofNat (p.list.idxOf c) = .ofNat (p.list.idxOf d) ↔ c = d := by
  rw [← UInt32.toNat_inj, toNat_ofNat_idxOf hroom hc, toNat_ofNat_idxOf hroom hd,
    List.idxOf_inj hc]

end Room

lemma exists_get?_intern {x : Operand} (hroom : p.size < 2 ^ 32) (hc : x.toConstant? = some c) :
    ∃ i, (p.intern x).1 = some i ∧ (p.intern x).2.get? i = some c := by
  have hlength : (p.intern x).2.list.length ≤ 2 ^ 32 := by
    have hsize : p.list.length < 2 ^ 32 := hroom
    rw [intern_of_some hc, list_place]
    split
    · exact hsize.le
    · simpa using hsize
  obtain ⟨hmem, hplace⟩ := intern_fst_of_some hc p []
  exact ⟨_, hplace, get?_ofNat_idxOf hlength hmem⟩

/-! ### Runs from an empty pool -/

abbrev constantsOf (xs : List Operand) : List Constant := xs.filterMap toConstant?

lemma eraseDups_append_singleton (cs : List Constant) (c : Constant) :
    (cs ++ [c]).eraseDups = if c ∈ cs then cs.eraseDups else cs.eraseDups ++ [c] := by
  rw [List.eraseDups_append]
  by_cases hc : c ∈ cs <;> simp [List.removeAll, hc, List.eraseDups_cons]

/-- The pool holds the constants of the run in the order in which they came first. -/
lemma list_internAll_empty (xs : List Operand) :
    (empty.internAll xs).list = (constantsOf xs).eraseDups := by
  -- from the end, where an operand comes last in the pool and in the run
  induction xs using List.reverseRecOn with
  | nil => rfl
  | append_singleton xs x ih =>
    rw [internAll_append, internAll_cons, internAll_nil, constantsOf, List.filterMap_append]
    rcases hx : x.toConstant? with _ | c
    · simpa [hx, intern_of_none hx] using ih
    · have hlast : [x].filterMap toConstant? = [c] := by simp [hx]
      rw [intern_of_some hx, list_place, hlast, eraseDups_append_singleton, ih]
      simp only [List.mem_eraseDups]

lemma length_list_internAll_empty (xs : List Operand) :
    (empty.internAll xs).list.length = (constantsOf xs).toFinset.card := by
  have hnodup : (empty.internAll xs).list.Nodup := nodup_internAll List.nodup_nil xs
  rw [← List.toFinset_card_of_nodup hnodup]
  congr 1
  ext c
  simp [list_internAll_empty]

/-- **What a run leaves in a pool.** Let operands with no more different constants than there are
places go into an empty pool, one after the other. Those that are not constant change nothing and
get no answer. Any other gets a place at which its constant stands, then and ever after, for what
is in the pool stays where it is. Wherever in the run two of them stand, they get the same place
just when they are equal, doubles by their bits. In the end the pool holds each constant of the run
once, in the order in which they came first, at the places from 0 on. -/
theorem intern_run (xs : List Operand) (hroom : (constantsOf xs).toFinset.card ≤ 2 ^ 32) :
    let pool := empty.internAll xs
    (∀ before x after, xs = before ++ x :: after →
      let p := empty.internAll before
      (p.intern x = (none, p) ↔ ¬ x.isConstant) ∧
      (x.isConstant → ∃ i c, (p.intern x).1 = some i ∧ x.toConstant? = some c ∧
        ∀ later, later <+: after → ((p.intern x).2.internAll later).get? i = some c)) ∧
    (∀ before, before <+: xs → (empty.internAll before).list <+: pool.list) ∧
    (∀ (n k : ℕ) (x y : Operand), xs[n]? = some x → xs[k]? = some y → x.isConstant → y.isConstant →
      ((empty.answers xs)[n]? = (empty.answers xs)[k]? ↔ x = y)) ∧
    pool.list.Nodup ∧ pool.size = (constantsOf xs).toFinset.card ∧
    ∀ i, pool.get? i = (constantsOf xs).eraseDups[i.toNat]? := by
  intro pool
  have hlength : pool.list.length = (constantsOf xs).toFinset.card :=
    length_list_internAll_empty xs
  have hgrown (before : List Operand) (hbefore : before <+: xs) :
      (empty.internAll before).list <+: pool.list := by
    obtain ⟨after, rfl⟩ := hbefore
    rw [show pool = (empty.internAll before).internAll after from internAll_append _ _ _]
    exact list_prefix_internAll _ _
  refine ⟨fun before x after hxs => ⟨?_, fun hx => ?_⟩, hgrown, fun n k x y hn hk hx hy => ?_,
    nodup_internAll List.nodup_nil xs, hlength, fun i => ?_⟩
  · rw [← toConstant?_eq_none_iff]
    rcases hc : x.toConstant? with _ | c
    · simp [intern_of_none hc]
    · simp [intern_of_some hc]
  · obtain ⟨c, hc⟩ := isConstant_iff.mp hx
    refine ⟨_, c, (intern_fst_of_some hc _ []).2, hc, ?_⟩
    -- the place that was answered is the one in the pool after `later`
    rintro later ⟨rest, rfl⟩
    obtain ⟨hmem, hplace⟩ := intern_fst_of_some hc (empty.internAll before) later
    rw [Option.some.inj ((intern_fst_of_some hc _ []).2.symm.trans hplace), ← internAll_cons]
    rw [← internAll_append] at hmem ⊢
    have hle := (hgrown (before ++ x :: later) ⟨rest, by simp [hxs]⟩).length_le
    exact get?_ofNat_idxOf (by omega) hmem
  · obtain ⟨c, hc⟩ := isConstant_iff.mp hx
    obtain ⟨d, hd⟩ := isConstant_iff.mp hy
    obtain ⟨hmemc, hanswerc⟩ := getElem?_answers_of_some hn hc empty
    obtain ⟨hmemd, hanswerd⟩ := getElem?_answers_of_some hk hd empty
    rw [hanswerc, hanswerd, Option.some.injEq, Option.some.injEq,
      ofNat_idxOf_inj (hlength.trans_le hroom) hmemc hmemd]
    exact toConstant?_inj hc hd
  · rw [← list_internAll_empty, get?, Array.getElem?_toList]

/-- The two zeros get places of their own, and a NaN finds the one that it has. -/
theorem intern_run_zeros :
    let zero : Operand := .literal (.float ⟨0⟩)
    let negZero : Operand := .literal (.float ⟨0x8000000000000000⟩)
    let nan : Operand := .array [.literal (.float ⟨0x7ff8000000000000⟩)]
    let xs := [zero, nan, .var ⟨"x", none⟩, negZero, nan]
    (constantsOf xs).toFinset.card ≤ 2 ^ 32 ∧
      (empty.answers xs)[0]? ≠ (empty.answers xs)[3]? ∧
      (empty.answers xs)[1]? = (empty.answers xs)[4]? := by
  intro zero negZero nan xs
  have hroom : (constantsOf xs).toFinset.card ≤ 2 ^ 32 :=
    (List.toFinset_card_le _).trans (by decide)
  obtain ⟨-, -, hanswers, -⟩ := intern_run xs hroom
  refine ⟨hroom, ?_, (hanswers 1 4 nan nan rfl rfl rfl rfl).mpr rfl⟩
  rw [ne_eq, hanswers 0 3 zero negZero rfl rfl rfl rfl]
  simp [zero, negZero]

end Dirlang.Pool
