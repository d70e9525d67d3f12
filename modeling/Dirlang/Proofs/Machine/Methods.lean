import Mathlib
import Dirlang.Proofs.Dir.LifeCycle
import Dirlang.Proofs.Machine.Dangling
import Dirlang.Proofs.Machine.Visiting

/-!
Methods on a directory that is there: how they end and what they leave in a trace.
-/

namespace Dirlang

variable {E : Embedding} {m : Machine E} {r : Ref} {d : Dir} {α : Type}

namespace Traced

variable {block : Option (Block (Traced E))}

lemma apply_method_of_check_error {v : Value} {args : List Value} {f : Method} {e : Error}
    (h : f.check args block.isSome = .error e) :
    (Action.method v args block f : Traced E Value) m = (.error e, .nil) := by
  cases f with
  | seek | setPos =>
    rcases args with _ | ⟨w, _ | ⟨w', rest⟩⟩
    · cases h; rfl
    · cases w with
      | int i => cases h
      | _ => cases h; rfl
    · cases h; rfl
  | each =>
    rcases args with _ | ⟨w, rest⟩
    · rcases block with _ | b
      · cases h; rfl
      · cases h
    · cases h; rfl
  | _ =>
    rcases args with _ | ⟨w, rest⟩
    · cases h
    · cases h; rfl

variable (hd : m.store.get? r = some (.dir d))
include hd

lemma apply_dir : (Action.dir (.dir r) : Traced E Dir) m = (.ok d, .nil) := by
  have hdir : m.store.dir (.dir r) = .ok d := by simp [Store.dir, hd]
  change andThen m .nil (liftM (m.store.dir (.dir r))) = _
  rw [hdir]
  rfl

lemma apply_updateDir (f : Dir → Dir) :
    (Action.updateDir (.dir r) f : Traced E Unit) m =
      (.ok (), .event (.change (.dir r) f) .nil) := by
  rw [Action.updateDir, apply_bind_of_ok (apply_dir hd)]
  rfl

lemma apply_updateDir_bind (f : Dir → Dir) (w : Value) :
    (do Action.updateDir (.dir r) f; return w : Traced E Value) m =
      (.ok w, .event (.change (.dir r) f) .nil) := by
  rw [apply_bind_of_ok (apply_updateDir hd f)]
  rfl

lemma apply_path :
    (Action.method (.dir r) [] block .path : Traced E Value) m = (d.path?.map .str, .nil) := by
  change (Action.dir (.dir r) >>= fun d => liftM d.path? >>= fun path => pure (.str path) :
    Traced E Value) m = _
  rw [apply_bind_of_ok (apply_dir hd)]
  rcases d.path? with e | path <;> rfl

lemma apply_tell :
    (Action.method (.dir r) [] block .tell : Traced E Value) m = (.ok (.int d.pos), .nil) := by
  change (Action.dir (.dir r) >>= fun d => pure (.int d.pos) : Traced E Value) m = _
  rw [apply_bind_of_ok (apply_dir hd)]
  rfl

lemma apply_entries :
    (Action.method (.dir r) [] block .entries : Traced E Value) m =
      (.ok (.list m.store.next), .event (.alloc (.list (d.names.map .str))) .nil) := by
  change (Action.dir (.dir r) >>= fun d => Action.newStrings d.names : Traced E Value) m = _
  rw [apply_bind_of_ok (apply_dir hd)]
  change (Except.ok (Value.list (m.store.alloc _).1), _) = _
  rw [Store.alloc_fst]
  rfl

lemma apply_each (b : Block (Traced E)) :
    (Action.method (.dir r) [] (some b) .each : Traced E Value) m =
      (do Action.eachName d b; return .dir r : Traced E Value) m := by
  change (Action.dir (.dir r) >>= fun d => Action.eachName d b >>= fun _ => pure (.dir r) :
    Traced E Value) m = _
  rw [apply_bind_of_ok (apply_dir hd)]
  rfl

lemma visits_each (b : Block (Traced E)) :
    let ended := (Action.method (.dir r) [] (some b.told) .each : Traced E Value) m
    Visits (.dir r) d.names ended.2.invocations ended.1 := by
  rw [apply_each hd, apply_bind_pure]
  exact visits_forM b d.names m

lemma apply_read :
    (Action.method (.dir r) [] block .read : Traced E Value) m =
      (d.read.map fun (name, _) => (name.map Value.str).getD .nil,
        if d.isOpen then .event (.change (.dir r) fun _ => d.after .read) .nil else .nil) := by
  change (Action.dir (.dir r) >>= fun d => liftM d.read >>= fun ended =>
    Action.updateDir (.dir r) (fun _ => ended.2) >>= fun _ =>
      pure ((ended.1.map Value.str).getD .nil) : Traced E Value) m = _
  rw [apply_bind_of_ok (apply_dir hd)]
  by_cases hopen : d.isOpen
  · obtain ⟨name, hread⟩ : ∃ name, d.read = .ok (name, d.after .read) := by
      rcases hc : d.current? with _ | name
      · exact ⟨none, by simp [Dir.read, Dir.after, hopen, hc]⟩
      · exact ⟨some name, by simp [Dir.read, Dir.after, hopen, hc]⟩
    rw [if_pos hopen, hread]
    exact apply_updateDir_bind hd _ _
  · have hread : d.read = .error .alreadyClosed := by simp [Dir.read, hopen]
    rw [if_neg hopen, hread]
    rfl

end Traced

namespace Method

variable {args : List Value} {given : Bool}

lemma args_of_noneOf (h : Value.noneOf args = .ok ()) : args = [] := by
  rcases args with _ | ⟨w, rest⟩
  · rfl
  · cases h

lemma args_of_check_each {block : Option α} (h : Method.each.check args block.isSome = .ok ()) :
    args = [] ∧ ∃ b, block = some b := by
  rcases args with _ | ⟨w, rest⟩
  · rcases block with _ | b
    · cases h
    · exact ⟨rfl, b, rfl⟩
  · cases h

lemma args_of_onlyOf
    (h : ((Value.onlyOf args).bind fun w => w.expectInt.map fun _ => ()) = .ok ()) :
    ∃ pos, args = [.int pos] := by
  rcases args with _ | ⟨w, _ | ⟨w', rest⟩⟩
  · cases h
  · cases w with
    | int pos => exact ⟨pos, rfl⟩
    | _ => cases h
  · cases h

end Method

end Dirlang
