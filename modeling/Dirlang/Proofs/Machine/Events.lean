import Mathlib
import Dirlang.Proofs.Machine.Log

/-!
What the standard functions and methods do to a machine, as rules for their events.

Whatever holds of the few kinds of events that they cause themselves, and of the events of the
block, holds of every event of a call. Nothing needs to be known of the code of a function beyond
that.
-/

namespace Dirlang

variable {E : Embedding} {α β : Type} {P : Machine E → Event E → Prop}

/-- Every event satisfies `P` on the machine where it happens. -/
def Machine.Obeys (P : Machine E → Event E → Prop) (m : Machine E) : List (Event E) → Prop
  | [] => True
  | e :: es => P m e ∧ (m.after e).Obeys P es

lemma Machine.obeys_append {m : Machine E} {es more : List (Event E)} :
    m.Obeys P (es ++ more) ↔ m.Obeys P es ∧ (m.afterAll es).Obeys P more := by
  induction es generalizing m with
  | nil => simp [Obeys]
  | cons e es ih => simp [Obeys, ih, and_assoc]

namespace Logged

/-- Every event of the code satisfies `P`, on whatever machine the code is run. -/
def Obeys (P : Machine E → Event E → Prop) (x : Logged E α) : Prop :=
  ∀ m : Machine E, m.Obeys P (x m).2

lemma obeys_pure (a : α) : (pure a : Logged E α).Obeys P := fun _ => trivial

lemma obeys_throw (e : Error) : (throw e : Logged E α).Obeys P := fun _ => trivial

lemma obeys_look : (look : Logged E (Machine E)).Obeys P := fun _ => trivial

lemma obeys_perform {e : Event E} (h : ∀ m, P m e) : (perform e : Logged E Unit).Obeys P :=
  fun m => ⟨h m, trivial⟩

lemma obeys_bind {x : Logged E α} {f : α → Logged E β} (hx : x.Obeys P)
    (hf : ∀ a, (f a).Obeys P) : (x >>= f).Obeys P := by
  intro m
  have h := hx m
  rw [apply_bind]
  rcases hm : x m with ⟨e | a, es⟩
  · rwa [hm] at h
  · rw [hm] at h
    exact Machine.obeys_append.mpr ⟨h, hf a _⟩

lemma obeys_tryCatch {x : Logged E α} {handle : Error → Logged E α} (hx : x.Obeys P)
    (hhandle : ∀ e, (handle e).Obeys P) : (tryCatch x handle : Logged E α).Obeys P := by
  intro m
  have h := hx m
  rw [apply_tryCatch]
  rcases hm : x m with ⟨e | a, es⟩
  · rw [hm] at h
    exact Machine.obeys_append.mpr ⟨h, hhandle e _⟩
  · rwa [hm] at h

lemma obeys_discard {x : Logged E α} (hx : x.Obeys P) : (discard x : Logged E Unit).Obeys P :=
  obeys_bind (f := fun _ => pure ()) hx fun _ => obeys_pure ()

end Logged

namespace Action

open Logged

variable (hP : ∀ (m : Machine E) (e : Event E), e.Own → P m e)
include hP

lemma uniform_obeys :
    Uniform (fun _ => True) fun α (x : Logged E α) (_ : Logged E α) => x.Obeys P :=
  .of_own obeys_pure obeys_throw obeys_bind obeys_tryCatch obeys_discard obeys_look
    fun e he _ => obeys_perform fun m => hP m e he

lemma obeys_openDir (path : String) : (openDir path : Logged E Value).Obeys P :=
  (uniform_obeys hP).openDir path

lemma obeys_release (v : Value) : (release v : Logged E Bool).Obeys P :=
  (uniform_obeys hP).release trivial

variable {block : Option (Block (Logged E))} (hblock : ∀ b ∈ block, ∀ args, (b args).Obeys P)
include hblock

omit hP in
lemma blocks_obeys :
    Uniform.Blocks (fun α (x : Logged E α) (_ : Logged E α) => x.Obeys P) block block := by
  cases block with
  | none => exact .none
  | some b => exact .some (hblock b rfl)

lemma obeys_callMethod (v : Value) (name : String) (args : List Value) :
    (callMethod v name args block).Obeys P :=
  (uniform_obeys hP).callMethod (blocks_obeys hblock) (fun _ _ _ => trivial) args

lemma obeys_standard (args : List Value) (f : DirFunction) : (standard args block f).Obeys P :=
  (uniform_obeys hP).standard (blocks_obeys hblock)
    (fun dir => obeys_perform fun m => hP m _ (.goTo dir)) args f

end Action

end Dirlang
