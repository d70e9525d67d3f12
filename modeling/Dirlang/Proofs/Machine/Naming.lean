import Mathlib
import Dirlang.Proofs.Table
import Dirlang.Proofs.Machine.Running

/-!
Which name calls what.

Methods and standard functions are looked up by name in a table each. Here every one of them says
itself by which names it is called, and the tables agree.
-/

namespace Dirlang

variable {E : Embedding} {name : String}

/-! ### Methods -/

namespace Method

def calledBy : Method → List String
  | .close => ["close"]
  | .each => ["each"]
  | .entries => ["entries"]
  | .path => ["path"]
  | .tell => ["tell", "pos"]
  | .seek => ["seek"]
  | .setPos => ["pos="]
  | .read => ["read"]
  | .rewind => ["rewind"]

lemma mem_named_iff {f : Method} : (name, f) ∈ named ↔ name ∈ f.calledBy := by
  cases f <;> simp [named, calledBy]

lemma ofName?_eq_some_iff {f : Method} : ofName? name = some f ↔ name ∈ f.calledBy := by
  rw [← mem_named_iff]
  constructor
  · intro h
    obtain ⟨before, after, hnamed, -⟩ := List.lookup_eq_some_iff.mp h
    rw [hnamed]
    exact List.mem_append_right _ List.mem_cons_self
  · intro h
    have hall : ∀ entry ∈ named, ofName? entry.1 = some entry.2 := by decide
    exact hall _ h

end Method

/-! ### Standard functions -/

namespace DirFunction

def calledBy : DirFunction → List String
  | .newDir => ["Dir.new"]
  | .openDir => ["Dir.open"]
  | .entries => ["Dir.entries"]
  | .foreach => ["Dir.foreach"]
  | .glob => ["Dir.glob", "Dir.[]"]
  | .chdir => ["Dir.chdir"]
  | .chroot => ["Dir.chroot"]
  | .getwd => ["Dir.getwd", "Dir.pwd"]
  | .mkdir => ["Dir.mkdir"]
  | .rmdir => ["Dir.rmdir", "Dir.unlink", "Dir.delete"]

lemma mem_named_iff {f : DirFunction} : (name, f) ∈ named ↔ name ∈ f.calledBy := by
  cases f <;> simp [named, calledBy]

end DirFunction

/-! ### Calls -/

namespace Machine

/-- **Names of methods.** A call on a directory value runs the method that is called by its name.
There is no other method, and no method of any other value. -/
theorem run_callMethod (m : Machine E) (args : List Value) (block : Option (Block (Action E))) :
    (∀ r (f : Method), ∀ name ∈ f.calledBy, m.run (Action.callMethod (.dir r) name args block) =
      m.run (Action.method (.dir r) args block f)) ∧
    ∀ v name, (∀ r, v = .dir r → ∀ f : Method, name ∉ f.calledBy) →
      m.run (Action.callMethod v name args block) = (.error (.noMethod name v.typeName), m) := by
  refine ⟨fun r f name hname => ?_, fun v name hnone => ?_⟩
  · simp only [Action.callMethod, Method.ofName?_eq_some_iff.mpr hname]
  · cases v with
    | dir r =>
      have hname : Method.ofName? name = none := Option.eq_none_iff_forall_ne_some.mpr fun f h =>
        hnone r rfl f (Method.ofName?_eq_some_iff.mp h)
      simp only [Action.callMethod, hname]
      rfl
    | _ => rfl

/-- **Names of functions.** A machine that has just been started runs the standard function that is
called by a name, and has no other function. -/
theorem run_call_start [Extension E] (config : Config) (files : E.Files) (environment : Environment)
    (data : E.Data) (args : List Value) (block : Option (Block (Action E))) :
    let m := start config files environment data
    (∀ f : DirFunction, ∀ name ∈ f.calledBy, m.run (Action.call name args block) =
      m.run (Action.standard args block f)) ∧
    ∀ name, (∀ f : DirFunction, name ∉ f.calledBy) →
      m.run (Action.call name args block) = (.error (.noMethod name "runtime"), m) := by
  intro m
  refine ⟨fun f name hname => ?_, fun name hnone => ?_⟩
  · have hfind := find?_start config files environment data (DirFunction.mem_named_iff.mpr hname)
    rw [run_call, hfind]
    rfl
  · have hnot : name ∉ (standard (E := E)).map Prod.fst := by
      intro h
      obtain ⟨f, hf⟩ : ∃ f, (name, f) ∈ DirFunction.named := by simpa [standard] using h
      exact hnone f (DirFunction.mem_named_iff.mp hf)
    have hfind : m.functions.find? name = none := Table.find?_insertAll_of_not_mem .empty hnot
    rw [run_call, hfind]

end Machine

end Dirlang
