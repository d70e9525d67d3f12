import Mathlib
import Dirlang.Machine.Basic

/-!
What is found in a table after entries were put in, in which order its names stand, and what is in
the table that a machine starts with.

Where a name stands comes from its first entry, what is found under it from its last.
-/

namespace Dirlang

namespace Table

variable {α : Type} {name : String} {value : α} {entries : List (String × α)}

lemma lookup_put (name : String) (value : α) (entries : List (String × α)) (key : String) :
    (put name value entries).lookup key =
      if key = name then some value else entries.lookup key := by
  have hcons (k : String) (v : α) (rest : List (String × α)) :
      ((k, v) :: rest).lookup key = if key = k then some v else rest.lookup key := by
    by_cases h : key = k
    · simp [h]
    · simp [List.lookup_cons, beq_false_of_ne h, h]
  induction entries with
  | nil => exact hcons name value []
  | cons entry entries ih =>
    obtain ⟨k, v⟩ := entry
    rw [put]
    split
    · next hk =>
      subst hk
      rw [hcons, hcons]
      split <;> rfl
    · next hk =>
      rw [hcons, hcons, ih]
      split
      · next h => rw [if_neg (h ▸ hk)]
      · rfl

lemma insertAll_append (t : Table α) (entries more : List (String × α)) :
    t.insertAll (entries ++ more) = (t.insertAll entries).insertAll more :=
  List.foldl_append

lemma find?_insertAll (t : Table α) (entries : List (String × α)) (name : String) :
    (t.insertAll entries).find? name =
      ((entries.filter (·.1 = name)).getLast?.map Prod.snd).or (t.find? name) := by
  -- from the end, as the entry put last is the one found
  induction entries using List.reverseRecOn with
  | nil => rfl
  | append_singleton entries entry ih =>
    have hput : (t.insertAll (entries ++ [entry])).find? name =
        if name = entry.1 then some entry.2 else (t.insertAll entries).find? name := by
      rw [insertAll_append]
      exact lookup_put ..
    rw [hput, List.filter_append]
    by_cases h : entry.1 = name
    · simp [h]
    · simp [h, Ne.symm h, ih]

lemma find?_insertAll_of_not_mem (t : Table α) (h : name ∉ entries.map Prod.fst) :
    (t.insertAll entries).find? name = t.find? name := by
  have hfilter : entries.filter (·.1 = name) = [] := by
    refine List.filter_eq_nil_iff.mpr fun entry hentry => ?_
    rw [decide_eq_true_eq]
    exact fun hname => h (List.mem_map.mpr ⟨entry, hentry, hname⟩)
  rw [find?_insertAll, hfilter]
  rfl

lemma find?_insertAll_of_mem (t : Table α) (hnodup : (entries.map Prod.fst).Nodup)
    (h : (name, value) ∈ entries) : (t.insertAll entries).find? name = some value := by
  induction entries generalizing t with
  | nil => cases h
  | cons entry entries ih =>
    rw [List.map_cons, List.nodup_cons] at hnodup
    rcases List.mem_cons.mp h with rfl | h
    · refine (find?_insertAll_of_not_mem (t.insert name value) hnodup.1).trans ?_
      exact (lookup_put ..).trans (if_pos rfl)
    · exact ih (t.insert entry.1 entry.2) hnodup.2 h

/-! ### Names -/

lemma contains_iff (t : Table α) (name : String) : t.contains name ↔ name ∈ t.names := by
  rw [contains, find?, List.lookup_isSome_iff]
  simp [names]

lemma names_insert (t : Table α) (name : String) (value : α) :
    (t.insert name value).names = if name ∈ t.names then t.names else t.names ++ [name] := by
  obtain ⟨entries⟩ := t
  unfold insert names
  induction entries with
  | nil => simp [put]
  | cons entry entries ih =>
    obtain ⟨k, v⟩ := entry
    rw [put]
    by_cases hk : k = name
    · simp [hk]
    · simp only [if_neg hk, List.map_cons, ih, List.mem_cons, Ne.symm hk, false_or]
      split <;> rfl

/-- New names follow in the order in which they come first. -/
lemma names_insertAll (t : Table α) (entries : List (String × α)) :
    (t.insertAll entries).names =
      t.names ++ ((entries.map Prod.fst).removeAll t.names).eraseDups := by
  induction entries generalizing t with
  | nil => simp [insertAll]
  | cons entry entries ih =>
    have hrest := ih (t.insert entry.1 entry.2)
    rw [names_insert] at hrest
    refine Eq.trans hrest ?_
    rw [List.map_cons]
    by_cases hk : entry.1 ∈ t.names
    · simp [hk, List.removeAll]
    · have hcons : (entry.1 :: entries.map Prod.fst).removeAll t.names =
          entry.1 :: (entries.map Prod.fst).removeAll t.names := by
        simp [List.removeAll, hk]
      have hboth : (entries.map Prod.fst).removeAll (t.names ++ [entry.1]) =
          ((entries.map Prod.fst).removeAll t.names).filter fun k => !k == entry.1 := by
        simp [List.removeAll, List.filter_filter, Bool.and_comm, beq_eq_decide]
      rw [if_neg hk, hcons, hboth, List.eraseDups_cons, List.append_assoc]
      rfl

lemma names_insertAll_empty (entries : List (String × α)) :
    ((empty : Table α).insertAll entries).names = (entries.map Prod.fst).eraseDups := by
  rw [names_insertAll]
  simp [empty, names, List.removeAll]

lemma names_insertAll_of_forall_mem (t : Table α) (h : ∀ entry ∈ entries, entry.1 ∈ t.names) :
    (t.insertAll entries).names = t.names := by
  have hnone : (entries.map Prod.fst).removeAll t.names = [] := by
    simpa [List.removeAll] using h
  rw [names_insertAll, hnone, List.eraseDups_nil, List.append_nil]

end Table

variable {E : Embedding}

lemma Machine.find?_start (config : Config) (files : E.Files) (environment : Environment)
    (data : E.Data) {name : String} {f : DirFunction} (h : (name, f) ∈ DirFunction.named) :
    (start config files environment data).functions.find? name = some (.standard f) := by
  refine Table.find?_insertAll_of_mem _ ?_ (List.mem_map.mpr ⟨_, h, rfl⟩)
  have hnames : (standard (E := E)).map Prod.fst = DirFunction.named.map Prod.fst := rfl
  rw [hnames]
  decide

end Dirlang
