import Mathlib
import Dirlang.Path.Component
import Dirlang.Proofs.Text.Utf8

/-!
What a path means, from its pieces.

A path begins in one of four ways: it is empty, it starts at the root, it starts with a dot, or its
first piece is a name. Only the first piece can make a difference to that, so whatever is put behind
a path that is not empty adds the components of its own pieces and changes nothing before them.

Pieces are cut at bytes. No character but the slash has the byte of the slash in it, so that the
pieces of a text are texts.
-/

open Dirlang.Text

namespace Dirlang.RawPath

/-- How the pieces of a path begin: the start that they make, and the pieces after it. -/
inductive Starts : List RawPath → Option Component → List RawPath → Prop
  | empty : Starts [[]] none [[]]
  | root {ps : List RawPath} (h : ps ≠ []) : Starts ([] :: ps) (some .root) ps
  | current {ps : List RawPath} : Starts ([dot] :: ps) (some .current) ps
  | name {p : RawPath} {ps : List RawPath} (h : ¬ isVacuous p) : Starts (p :: ps) none (p :: ps)

abbrev IsPiece (s : RawPath) : Prop := slash ∉ s

/-- The components that pieces stand for inside a path. -/
def named (ps : List RawPath) : List Component := ps.filterMap component?

variable {b : UInt8} {p q s base : RawPath} {ps below : List RawPath} {c : Component}
  {lead : Option Component}

/-! ### Pieces -/

lemma pieces_append (p q : RawPath) : pieces (p ++ slash :: q) = pieces p ++ pieces q :=
  List.splitOn_append_cons_self p q

lemma pieces_slash (p : RawPath) : pieces (slash :: p) = [] :: pieces p := pieces_append [] p

lemma pieces_cons_of_ne (h : b ≠ slash) (p : RawPath) :
    pieces (b :: p) = (pieces p).modifyHead (b :: ·) := by
  rw [pieces, List.splitOn_cons_eq_if_modifyHead, if_neg (by simpa using h)]
  rfl

lemma pieces_ne_nil (p : RawPath) : pieces p ≠ [] := List.splitOn_ne_nil slash p

lemma ofPieces_pieces (p : RawPath) : ofPieces (pieces p) = p := List.intercalate_splitOn slash

lemma pieces_ofPieces (hne : ps ≠ []) (h : ∀ s ∈ ps, IsPiece s) : pieces (ofPieces ps) = ps :=
  List.splitOn_intercalate slash h hne

lemma ofPieces_singleton (p : RawPath) : ofPieces [p] = p := List.intercalate_singleton

lemma ofPieces_cons (h : ps ≠ []) (p : RawPath) :
    ofPieces (p :: ps) = p ++ slash :: ofPieces ps := by
  rw [ofPieces, List.intercalate_cons_of_ne_nil h, List.append_assoc]
  rfl

lemma isPiece_of_mem_pieces (h : s ∈ pieces p) : IsPiece s := by
  induction p generalizing s with
  | nil =>
    rw [List.mem_singleton.mp h]
    exact List.not_mem_nil
  | cons b p ih =>
    by_cases hb : b = slash
    · subst hb
      rw [pieces_slash] at h
      rcases List.mem_cons.mp h with rfl | h
      · exact List.not_mem_nil
      · exact ih h
    · rw [pieces_cons_of_ne hb] at h
      rcases hp : pieces p with _ | ⟨first, rest⟩ <;> rw [hp] at h ih
      · cases h
      rcases List.mem_cons.mp h with rfl | h
      · exact List.not_mem_cons_of_ne_of_not_mem (Ne.symm hb) (ih List.mem_cons_self)
      · exact ih (List.mem_cons_of_mem first h)

lemma pieces_eq_singleton_empty_iff : pieces p = [[]] ↔ p = [] := by
  constructor
  · intro h
    rw [← ofPieces_pieces p, h]
    rfl
  · rintro rfl
    rfl

/-! ### Pieces of a text -/

lemma slash_mem_utf8EncodeChar_iff {c : Char} : slash ∈ String.utf8EncodeChar c ↔ c = '/' := by
  refine ⟨fun h => Char.toNat_inj.mp (toNat_of_mem_utf8EncodeChar h (by decide)), ?_⟩
  rintro rfl
  exact List.mem_singleton.mpr rfl

lemma pieces_append_of_isPiece (h : IsPiece s) (p : RawPath) :
    pieces (s ++ p) = (pieces p).modifyHead (s ++ ·) := by
  obtain ⟨first, rest, hp⟩ := List.exists_cons_of_ne_nil (pieces_ne_nil p)
  induction s with
  | nil => rw [List.nil_append, hp]; rfl
  | cons b s ih =>
    have hb : b ≠ slash := fun hb => h (hb ▸ List.mem_cons_self)
    rw [List.cons_append, pieces_cons_of_ne hb, ih fun hs => h (List.mem_cons_of_mem b hs), hp]
    rfl

lemma isUtf8_of_mem_pieces (h : IsUtf8 p) (hq : q ∈ pieces p) : IsUtf8 q := by
  obtain ⟨s, rfl⟩ := h
  rw [utf8] at hq
  generalize s.toList = cs at hq
  -- character by character, for a slash stands by itself and never inside of another
  induction cs generalizing q with
  | nil =>
    rw [List.mem_singleton.mp hq]
    exact isUtf8_nil
  | cons c cs ih =>
    rw [List.flatMap_cons] at hq
    by_cases hc : slash ∈ String.utf8EncodeChar c
    · obtain rfl := slash_mem_utf8EncodeChar_iff.mp hc
      rcases List.mem_cons.mp (pieces_slash _ ▸ hq) with rfl | hq
      · exact isUtf8_nil
      · exact ih hq
    · rw [pieces_append_of_isPiece hc] at hq
      rcases hrest : pieces (cs.flatMap String.utf8EncodeChar) with _ | ⟨first, rest⟩ <;>
        rw [hrest] at hq ih
      · cases hq
      rcases List.mem_cons.mp hq with rfl | hq
      · exact (isUtf8_utf8EncodeChar c).append (ih List.mem_cons_self)
      · exact ih (List.mem_cons_of_mem first hq)

lemma isUtf8_ofPieces (h : ∀ p ∈ ps, IsUtf8 p) : IsUtf8 (ofPieces ps) := by
  induction ps with
  | nil => exact isUtf8_nil
  | cons p ps ih =>
    obtain ⟨hp, hps⟩ := List.forall_mem_cons.mp h
    by_cases hne : ps = []
    · subst hne
      rwa [ofPieces_singleton]
    · rw [ofPieces_cons hne]
      exact hp.append (IsUtf8.append ⟨"/", rfl⟩ (ih hps))

/-! ### Pieces inside a path -/

lemma isVacuous_iff : isVacuous p ↔ component? p = none := by
  simp [isVacuous]

lemma not_isVacuous_iff : ¬ isVacuous p ↔ p ≠ [] ∧ p ≠ [dot] := by
  rw [isVacuous_iff, component?, ← not_or]
  split_ifs with h <;> simp_all

lemma named_append (ps qs : List RawPath) : named (ps ++ qs) = named ps ++ named qs :=
  List.filterMap_append

lemma named_cons_of_isVacuous (h : isVacuous p) : named (p :: ps) = named ps :=
  List.filterMap_cons_none (isVacuous_iff.mp h)

lemma named_cons_of_some (h : component? p = some c) : named (p :: ps) = c :: named ps :=
  List.filterMap_cons_some h

lemma root_notMem_named (ps : List RawPath) : .root ∉ named ps := by
  simp only [named, List.mem_filterMap, not_exists, not_and]
  intro p _
  unfold component?
  split_ifs <;> simp

lemma named_pieces_ofPieces (h : ∀ p ∈ ps, IsPiece p) :
    named (pieces (ofPieces ps)) = named ps := by
  by_cases hps : ps = []
  · subst hps
    rfl
  · rw [pieces_ofPieces hps h]

/-! ### The start of a path -/

lemma starts (h : ps ≠ []) : Starts ps (lead? ps) (body ps) := by
  obtain ⟨p, ps, rfl⟩ := List.exists_cons_of_ne_nil h
  by_cases hp : p = []
  · subst hp
    cases ps with
    | nil => exact .empty
    | cons q ps => exact .root (List.cons_ne_nil q ps)
  by_cases hdot : p = [dot]
  · subst hdot
    exact .current
  · have hlead : lead? (p :: ps) = none := by simp [lead?, hp, hdot]
    rw [body, hlead]
    exact .name (not_isVacuous_iff.mpr ⟨hp, hdot⟩)

namespace Starts

lemma eq (h : Starts ps lead below) : lead = lead? ps ∧ below = body ps := by
  cases h with
  | empty => exact ⟨rfl, rfl⟩
  | root h =>
    obtain ⟨p, ps, rfl⟩ := List.exists_cons_of_ne_nil h
    exact ⟨rfl, rfl⟩
  | current => exact ⟨rfl, rfl⟩
  | @name p ps h =>
    have hlead : lead? (p :: ps) = none := by simp [lead?, not_isVacuous_iff.mp h]
    rw [body, hlead]
    exact ⟨rfl, rfl⟩

lemma append (h : Starts ps lead below) (hps : ps ≠ [[]]) (qs : List RawPath) :
    Starts (ps ++ qs) lead (below ++ qs) := by
  cases h with
  | empty => exact (hps rfl).elim
  | root h => exact .root (List.append_ne_nil_of_left_ne_nil h qs)
  | current => exact .current
  | name h => exact .name h

lemma eq_nil_iff (h : Starts ps lead below) : lead.toList ++ named below = [] ↔ ps = [[]] := by
  cases h with
  | empty => simp [named, component?]
  | root h => simp [h]
  | current => simp
  | @name p ps h =>
    obtain ⟨c, hc⟩ := Option.ne_none_iff_exists'.mp (isVacuous_iff.not.mp h)
    have hp : p ≠ [] := (not_isVacuous_iff.mp h).1
    simp [named_cons_of_some hc, hp]

lemma suffix (h : Starts ps lead below) : below <:+ ps := by
  cases h with
  | empty | name => exact List.suffix_rfl
  | root | current => exact List.suffix_cons ..

end Starts

/-! ### Components -/

lemma components_of_starts (h : Starts (pieces p) lead below) :
    components p = lead.toList ++ named below := by
  obtain ⟨rfl, rfl⟩ := h.eq
  rfl

lemma components_eq_nil_iff : components p = [] ↔ p = [] := by
  have hstarts := starts (pieces_ne_nil p)
  rw [components_of_starts hstarts, hstarts.eq_nil_iff, pieces_eq_singleton_empty_iff]

lemma components_slash (q : RawPath) : components (slash :: q) = .root :: named (pieces q) := by
  have hstarts : Starts (pieces (slash :: q)) (some .root) (pieces q) := by
    rw [pieces_slash]
    exact .root (pieces_ne_nil q)
  exact components_of_starts hstarts

lemma components_append (h : p ≠ []) (q : RawPath) :
    components (p ++ slash :: q) = components p ++ named (pieces q) := by
  have hp := starts (pieces_ne_nil p)
  have hboth := hp.append (pieces_eq_singleton_empty_iff.not.mpr h) (pieces q)
  rw [← pieces_append] at hboth
  rw [components_of_starts hp, components_of_starts hboth, named_append, List.append_assoc]

lemma components_append_slash (h : p ≠ []) : components (p ++ [slash]) = components p := by
  have hnone : named (pieces []) = [] := rfl
  rw [components_append h [], hnone, List.append_nil]

lemma root_mem_components (h : isAbsolute p) : .root ∈ components p := by
  rw [isAbsolute, decide_eq_true_eq] at h
  obtain ⟨q, rfl⟩ := List.head?_eq_some_iff.mp h
  rw [components_slash]
  exact List.mem_cons_self

/-! ### Joining -/

lemma join_nil (p : RawPath) : join [] p = p := by
  simp [join, isClosed]

lemma components_join (hbase : base ≠ []) (hs : ¬ isAbsolute s) :
    components (join base s) = components base ++ named (pieces s) := by
  rw [join, if_neg hs]
  by_cases hclosed : isClosed base
  · have hlast : base.getLast? = some slash := by simpa [isClosed, hbase] using hclosed
    obtain ⟨p, rfl⟩ := List.getLast?_eq_some_iff.mp hlast
    rw [if_pos hclosed, List.append_assoc, List.singleton_append]
    by_cases hp : p = []
    · subst hp
      exact components_slash s
    · rw [components_append hp, components_append_slash hp]
  · rw [if_neg hclosed, components_append hbase]

end Dirlang.RawPath
