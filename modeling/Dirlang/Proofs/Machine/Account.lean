import Mathlib
import Dirlang.Proofs.Machine.Constants
import Dirlang.Proofs.Machine.Programs

/-!
An account of objects.

Each call has its entry in the account, according to what it is and how it ended. The account of a
trace adds up the entries of all calls in it, at any depth.
-/

namespace Dirlang

variable {E : Embedding} {m : Machine E}

/-! ### The account of a trace -/

namespace Trace

/-- The events inside of the invocations of a block, of which this is the trace around. -/
def inBlocks : Trace E → List (Event E)
  | nil => []
  | event _ rest => rest.inBlocks
  | part (.block _) _ inside rest => inside.events ++ rest.inBlocks
  | part (.call _ _) _ _ rest => rest.inBlocks

lemma inBlocks_append (t u : Trace E) : (t ++ u).inBlocks = t.inBlocks ++ u.inBlocks := by
  induction t with
  | nil => rfl
  | event e t ih => exact ih
  | part label outcome inside t _ ih =>
    cases label with
    | call c given => exact ih
    | block args => simp [inBlocks, ih]

end Trace

def Label.isForeach : Label E → Bool
  | .call (.function .foreach _) _ => true
  | _ => false

/-- How many more objects there are when a part is over, the parts inside of it not counted. A call
that answers a new object adds it when it succeeds, and opening for a block adds the directory as
soon as the block is run. -/
def Label.gain (outcome : Except Error Value) (inside : Trace E) : Label E → ℤ
  | .call (.newList _) _ | .call (.openDir _) _ | .call (.function .newDir _) _
  | .call (.function .entries _) _ | .call (.function .openDir _) false
  | .call (.function .glob _) false => if outcome.isOk then 1 else 0
  | .call (.method _ name _) _ =>
    if Method.ofName? name = some .entries ∧ outcome.isOk then 1 else 0
  | .call (.function .openDir _) true => if inside.invocations.isEmpty then 0 else 1
  | .call (.materialize c) _ => c.arrays
  | .call (.release _) _ => match outcome with
    | .ok (.bool true) => -1
    | _ => 0
  | _ => 0

namespace Trace

/-- How many more objects there are by the account of all parts, at any depth. -/
def gain : Trace E → ℤ
  | nil => 0
  | event _ rest => rest.gain
  | part label outcome inside rest => label.gain outcome inside + inside.gain + rest.gain

lemma gain_append (t u : Trace E) : (t ++ u).gain = t.gain + u.gain := by
  induction t with
  | nil => simp [gain]
  | event e t ih => exact ih
  | part label outcome inside t _ ih =>
    rw [part_append, gain, gain, ih]
    ring

/-- No block of `foreach` releases what is in the slot of the directory that it visits, which is
the next slot when `foreach` is called. -/
def KeepsForeach : Machine E → Trace E → Prop
  | _, nil => True
  | m, event e rest => rest.KeepsForeach (m.after e)
  | m, part label _ inside rest =>
    (label.isForeach → ¬ Released inside.inBlocks m.store.next) ∧
      inside.KeepsForeach m ∧ rest.KeepsForeach (m.afterAll inside.events)

instance decidableKeepsForeach : (m : Machine E) → (t : Trace E) → Decidable (t.KeepsForeach m)
  | _, nil => isTrue trivial
  | m, event e rest => decidableKeepsForeach (m.after e) rest
  | m, part _ _ inside rest =>
    have := decidableKeepsForeach m inside
    have := decidableKeepsForeach (m.afterAll inside.events) rest
    inferInstanceAs (Decidable ((_ → ¬ Released inside.inBlocks m.store.next) ∧ _ ∧ _))

lemma keepsForeach_append {t u : Trace E} :
    (t ++ u).KeepsForeach m ↔ t.KeepsForeach m ∧ u.KeepsForeach (m.afterAll t.events) := by
  induction t generalizing m with
  | nil => simp [KeepsForeach]
  | event e t ih => simp [KeepsForeach, ih]
  | part label outcome inside t _ ih => simp [KeepsForeach, ih, and_assoc]

end Trace

/-- The trace ends with as many objects as its account says. -/
def Balanced (m : Machine E) (t : Trace E) : Prop :=
  m.store.Consistent → t.KeepsForeach m →
    ((m.afterAll t.events).store.size : ℤ) = m.store.size + t.gain

lemma balanced_composes : Trace.Composes (E := E) Balanced where
  nil m _ _ := by simp [Trace.gain]
  append {m t u} ht hu hm hkeeps := by
    obtain ⟨hfirst, hrest⟩ := Trace.keepsForeach_append.mp hkeeps
    calc ((m.afterAll (t ++ u).events).store.size : ℤ)
        = ((m.afterAll t.events).afterAll u.events).store.size := by
          rw [Trace.events_append, Machine.afterAll_append]
      _ = (m.afterAll t.events).store.size + u.gain :=
          hu (Machine.consistent_afterAll hm _) hrest
      _ = m.store.size + t.gain + u.gain := by rw [ht hm hfirst]
      _ = m.store.size + (t ++ u).gain := by rw [Trace.gain_append, add_assoc]

/-! ### Events -/

/-- The event neither makes an object nor takes one away. -/
def Event.Steady : Event E → Prop
  | .alloc _ | .release _ => False
  | _ => True

namespace Machine

lemma size_after_alloc (h : m.store.Consistent) (o : Object) :
    (m.after (.alloc o)).store.size = m.store.size + 1 :=
  Store.size_alloc h o

lemma size_opened (h : m.store.Consistent) (path : String) :
    (m.opened path).store.size = m.store.size + 1 :=
  size_after_alloc h _

lemma size_after_release (h : m.store.Consistent) (v : Value) :
    ((m.after (.release v)).store.size : ℤ) =
      m.store.size + if (m.store.release v).1 then -1 else 0 := by
  change ((m.store.release v).2.size : ℤ) = _
  unfold Store.release
  rcases v.ref? with _ | r
  · simp
  · rcases hr : m.store.get? r with _ | o
    · simp [Store.free_of_none hr]
    · have hsize := Store.size_free h hr
      simp only [Store.free_fst, hr, Option.isSome_some, if_true]
      omega

lemma size_after_of_steady {e : Event E} (he : e.Steady) :
    (m.after e).store.size = m.store.size := by
  cases e with
  | alloc o => exact he.elim
  | release v => exact he.elim
  | change v f =>
    cases v with
    | dir r => exact Store.size_update _ _ _
    | _ => rfl
  | _ => rfl

end Machine

end Dirlang
