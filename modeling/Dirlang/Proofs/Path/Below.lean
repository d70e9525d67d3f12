import Mathlib
import Dirlang.Proofs.Path.Components

/-!
What is left of a path below a base.

The components of the base are read off the front of the path, piece by piece, over pieces that do
not count. That succeeds just when the components of the path begin with them. What is left,
trimmed, has the components that come after; it is a part of the path as it was written, text if the
path is text, and it is relative, so that joined to the base it means the path again. From the empty
base, which has no components, the path goes on with its own start.
-/

open Dirlang.Text

namespace Dirlang.RawPath

/-- What is left of a path below a base. -/
structure Below (base path s : RawPath) : Prop where
  components_eq : components path = components base ++ components s
  components_join : components (join base s) = components path
  isPart : s <:+: path
  isUtf8 : IsUtf8 path → IsUtf8 s

variable {p s base path : RawPath} {ps qs below : List RawPath} {cs : List Component}
  {lead : Option Component}

/-! ### Trimming -/

lemma named_dropWhile (ps : List RawPath) : named (ps.dropWhile isVacuous) = named ps := by
  induction ps with
  | nil => rfl
  | cons p ps ih =>
    by_cases hp : isVacuous p
    · rw [List.dropWhile_cons_of_pos hp, ih, named_cons_of_isVacuous hp]
    · rw [List.dropWhile_cons_of_neg hp]

lemma named_reverse (ps : List RawPath) : named ps.reverse = (named ps).reverse :=
  List.filterMap_reverse ..

lemma named_trimEnd (ps : List RawPath) : named (trimEnd ps) = named ps := by
  rw [trimEnd, named_reverse, named_dropWhile, named_reverse, List.reverse_reverse]

lemma named_trim (ps : List RawPath) : named (trim ps) = named ps := by
  rw [trim, named_trimEnd, named_dropWhile]

lemma prefix_trimEnd (ps : List RawPath) : trimEnd ps <+: ps := by
  have hback := List.dropWhile_suffix (l := ps.reverse) isVacuous
  rwa [← List.reverse_prefix, List.reverse_reverse] at hback

lemma trim_subset (ps : List RawPath) : trim ps ⊆ ps := fun _ hp =>
  (List.dropWhile_suffix isVacuous).subset ((prefix_trimEnd _).subset hp)

lemma not_isVacuous_of_trim_eq_cons (h : trim ps = p :: qs) : ¬ isVacuous p := by
  obtain ⟨rest, hrest⟩ := prefix_trimEnd (ps.dropWhile isVacuous)
  have hfirst := List.head?_dropWhile_not isVacuous ps
  rw [← hrest, ← trim, h] at hfirst
  simpa using hfirst

lemma components_ofPieces_trim (h : ∀ p ∈ ps, IsPiece p) :
    components (ofPieces (trim ps)) = named ps := by
  rw [← named_trim ps]
  rcases htrim : trim ps with _ | ⟨p, qs⟩
  · rfl
  · have hsubset := trim_subset ps
    rw [htrim] at hsubset
    have hpieces := pieces_ofPieces (List.cons_ne_nil p qs) fun q hq => h q (hsubset hq)
    have hstarts : Starts (pieces (ofPieces (p :: qs))) none (p :: qs) := by
      rw [hpieces]
      exact .name (not_isVacuous_of_trim_eq_cons htrim)
    exact components_of_starts hstarts

/-! ### Parts of a path -/

lemma ofPieces_append (hps : ps ≠ []) (hqs : qs ≠ []) :
    ofPieces (ps ++ qs) = ofPieces ps ++ slash :: ofPieces qs := by
  induction ps with
  | nil => exact (hps rfl).elim
  | cons p ps ih =>
    by_cases h : ps = []
    · subst h
      rw [List.singleton_append, ofPieces_cons hqs, ofPieces_singleton]
    · rw [List.cons_append, ofPieces_cons (by simp [h]), ofPieces_cons h, ih h,
        List.append_assoc, List.cons_append]

lemma prefix_ofPieces (h : qs <+: ps) : ofPieces qs <+: ofPieces ps := by
  obtain ⟨rest, rfl⟩ := h
  by_cases hqs : qs = []
  · subst hqs
    exact List.nil_prefix
  by_cases hrest : rest = []
  · rw [hrest, List.append_nil]
  · rw [ofPieces_append hqs hrest]
    exact List.prefix_append ..

lemma suffix_ofPieces (h : qs <:+ ps) : ofPieces qs <:+ ofPieces ps := by
  obtain ⟨front, rfl⟩ := h
  by_cases hqs : qs = []
  · subst hqs
    exact List.nil_suffix
  by_cases hfront : front = []
  · rw [hfront, List.nil_append]
  · rw [ofPieces_append hfront hqs]
    exact (List.suffix_cons ..).trans (List.suffix_append ..)

/-! ### Reading components off -/

lemma named_of_after_eq_some (h : after cs ps = some qs) :
    named ps = cs ++ named qs ∧ qs <:+ ps := by
  fun_induction after cs ps with
  | case1 ps =>
    cases h
    exact ⟨rfl, List.suffix_rfl⟩
  | case2 => cases h
  | case3 c cs p ps hp ih =>
    rw [named_cons_of_isVacuous (isVacuous_iff.mpr hp)]
    exact ⟨(ih h).1, (ih h).2.trans (List.suffix_cons p ps)⟩
  | case4 cs p ps c hp ih =>
    rw [named_cons_of_some hp, (ih h).1]
    exact ⟨rfl, (ih h).2.trans (List.suffix_cons p ps)⟩
  | case5 => cases h

lemma not_prefix_of_after_eq_none (h : after cs ps = none) : ¬ cs <+: named ps := by
  fun_induction after cs ps with
  | case1 ps => cases h
  | case2 c cs => simp [named]
  | case3 c cs p ps hp ih =>
    rw [named_cons_of_isVacuous (isVacuous_iff.mpr hp)]
    exact ih h
  | case4 cs p ps c hp ih =>
    rw [named_cons_of_some hp, List.cons_prefix_cons]
    exact fun hbegins => ih h hbegins.2
  | case5 c cs p ps d hp hcd =>
    rw [named_cons_of_some hp, List.cons_prefix_cons]
    exact fun hbegins => hcd hbegins.1

/-! ### Below the empty base -/

lemma Starts.components_build (h : Starts ps lead below) (hps : ∀ p ∈ ps, IsPiece p) :
    components (build lead (trimEnd below)) = lead.toList ++ named below := by
  cases h with
  | empty => rfl
  | root h =>
    have hpieces : ∀ p ∈ trimEnd below, IsPiece p := fun p hp =>
      hps p (List.mem_cons_of_mem [] ((prefix_trimEnd below).subset hp))
    calc components (build (some .root) (trimEnd below))
        = .root :: named (pieces (ofPieces (trimEnd below))) := components_slash _
      _ = .root :: named below := by rw [named_pieces_ofPieces hpieces, named_trimEnd]
  | current =>
    have hpieces : ∀ p ∈ [dot] :: trimEnd below, IsPiece p := fun p hp =>
      hps p ((List.cons_prefix_cons.mpr ⟨rfl, prefix_trimEnd below⟩).subset hp)
    have hstarts : Starts (pieces (ofPieces ([dot] :: trimEnd below))) (some .current)
        (trimEnd below) := by
      rw [pieces_ofPieces (List.cons_ne_nil _ _) hpieces]
      exact .current
    calc components (build (some .current) (trimEnd below))
        = .current :: named (trimEnd below) := components_of_starts hstarts
      _ = .current :: named below := by rw [named_trimEnd]
  | @name p ps h =>
    -- the first piece counts, so that nothing goes at the front
    have htrim : trim (p :: ps) = trimEnd (p :: ps) := by
      rw [trim, List.dropWhile_cons_of_neg h]
    rw [← htrim]
    exact components_ofPieces_trim hps

lemma Starts.prefix_build (h : Starts ps lead below) :
    build lead (trimEnd below) <+: ofPieces ps := by
  have htrim := prefix_trimEnd below
  cases h with
  | empty | name => exact prefix_ofPieces htrim
  | current => exact prefix_ofPieces (List.cons_prefix_cons.mpr ⟨rfl, htrim⟩)
  | root h =>
    rw [ofPieces_cons h]
    exact List.cons_prefix_cons.mpr ⟨rfl, prefix_ofPieces htrim⟩

lemma isUtf8_build (h : ∀ p ∈ ps, IsUtf8 p) : IsUtf8 (build lead ps) := by
  have hps := isUtf8_ofPieces h
  unfold build
  split
  · exact IsUtf8.append ⟨"/", rfl⟩ hps
  · exact isUtf8_ofPieces (List.forall_mem_cons.mpr ⟨⟨".", rfl⟩, h⟩)
  · exact hps

lemma below_empty (path : RawPath) :
    Below [] path (build (lead? (pieces path)) (trimEnd (body (pieces path)))) := by
  have hstarts := starts (pieces_ne_nil path)
  have hcomponents := hstarts.components_build fun _ => isPiece_of_mem_pieces
  have hbegins := hstarts.prefix_build
  have hempty : components [] = [] := components_eq_nil_iff.mpr rfl
  have hsubset : trimEnd (body (pieces path)) ⊆ pieces path :=
    List.Subset.trans (prefix_trimEnd _).subset hstarts.suffix.subset
  rw [← components_of_starts hstarts] at hcomponents
  rw [ofPieces_pieces] at hbegins
  refine ⟨?_, ?_, hbegins.isInfix, fun h => isUtf8_build fun p hp => ?_⟩
  · rw [hempty, List.nil_append, hcomponents]
  · rw [join_nil, hcomponents]
  · exact isUtf8_of_mem_pieces h (hsubset hp)

/-! ### Below any base -/

lemma below_ofPieces_trim (hbase : base ≠ []) (hqs : qs <:+ pieces path)
    (h : components path = components base ++ named qs) : Below base path (ofPieces (trim qs)) := by
  have hpieces : ∀ p ∈ qs, IsPiece p := fun p hp => isPiece_of_mem_pieces (hqs.subset hp)
  have hcomponents := components_ofPieces_trim hpieces
  -- trimmed pieces have no empty one in front, which would be the root
  have hrelative : ¬ isAbsolute (ofPieces (trim qs)) := fun habsolute =>
    root_notMem_named qs (hcomponents ▸ root_mem_components habsolute)
  refine ⟨by rw [h, hcomponents], ?_, ?_, fun hutf8 => isUtf8_ofPieces fun p hp => ?_⟩
  · have hnamed := named_pieces_ofPieces fun p hp => hpieces p (trim_subset qs hp)
    rw [components_join hbase hrelative, hnamed, named_trim, h]
  · have hfront := prefix_ofPieces (prefix_trimEnd (qs.dropWhile isVacuous))
    have hback := suffix_ofPieces ((List.dropWhile_suffix isVacuous).trans hqs)
    rw [ofPieces_pieces] at hback
    exact hfront.isInfix.trans hback.isInfix
  · exact isUtf8_of_mem_pieces hutf8 (hqs.subset (trim_subset qs hp))

lemma below_of_stripBase?_eq_some (h : stripBase? path base = some s) : Below base path s := by
  have hstarts := starts (pieces_ne_nil path)
  have hpath := components_of_starts hstarts
  rw [stripBase?] at h
  rcases hbase : components base with _ | ⟨c, cs⟩
  · obtain rfl := components_eq_nil_iff.mp hbase
    cases h
    exact below_empty path
  have hne : base ≠ [] := components_eq_nil_iff.not.mp (by simp [hbase])
  rw [hbase] at h
  dsimp only at h
  -- the start of the path, if it makes a component, is compared by itself
  rcases hlead : lead? (pieces path) with _ | d
  · rw [hlead] at h
    obtain ⟨qs, hafter, rfl⟩ := Option.map_eq_some_iff.mp h
    obtain ⟨hnamed, hqs⟩ := named_of_after_eq_some hafter
    refine below_ofPieces_trim hne (hqs.trans hstarts.suffix) ?_
    rw [hpath, hlead, hnamed, hbase]
    rfl
  · rw [hlead] at h
    dsimp only at h
    split at h
    · next hcd =>
      obtain ⟨qs, hafter, rfl⟩ := Option.map_eq_some_iff.mp h
      obtain ⟨hnamed, hqs⟩ := named_of_after_eq_some hafter
      refine below_ofPieces_trim hne (hqs.trans hstarts.suffix) ?_
      rw [hpath, hlead, hnamed, hbase, hcd]
      rfl
    · cases h

lemma not_prefix_of_stripBase?_eq_none (h : stripBase? path base = none) :
    ¬ components base <+: components path := by
  rw [components_of_starts (starts (pieces_ne_nil path))]
  rw [stripBase?] at h
  rcases hbase : components base with _ | ⟨c, cs⟩ <;> rw [hbase] at h
  · cases h
  dsimp only at h
  rcases hlead : lead? (pieces path) with _ | d <;> rw [hlead] at h
  · exact not_prefix_of_after_eq_none (Option.map_eq_none_iff.mp h)
  · rw [Option.toList_some, List.singleton_append, List.cons_prefix_cons]
    rintro ⟨rfl, hbegins⟩
    dsimp only at h
    rw [if_pos rfl, Option.map_eq_none_iff] at h
    exact not_prefix_of_after_eq_none h hbegins

/-- A path lies below a base just when its components begin with those of the base. -/
lemma stripBase?_eq_none_iff :
    stripBase? path base = none ↔ ¬ components base <+: components path := by
  refine ⟨not_prefix_of_stripBase?_eq_none, fun h => ?_⟩
  rcases hstrip : stripBase? path base with _ | s
  · rfl
  · have hbelow := below_of_stripBase?_eq_some hstrip
    exact (h ⟨components s, hbelow.components_eq.symm⟩).elim

end Dirlang.RawPath
