import Mathlib
import Dirlang.Proofs.Table
import Dirlang.Proofs.Machine.Log
import Dirlang.Proofs.Machine.Running
import Dirlang.Script.Run
import Dirlang.Files.Catalog

/-!
The functions that are registered on a machine.

Of all events only one changes the table of functions, so that after a run the table holds what the
run registered, on top of the standard functions. They are registered like any others: they may be
replaced, and come back when they are registered again.
-/

namespace Dirlang

variable {E : Embedding}

/-- What an event registers. -/
def Event.registers : Event E → List (String × Function E)
  | .install entries => entries
  | _ => []

namespace Machine

/-- All that is registered from the start of a machine to the end of a run, in order. -/
def registrations (es : List (Event E)) : List (String × Function E) :=
  standard ++ es.flatMap Event.registers

lemma functions_after (m : Machine E) (e : Event E) :
    (m.after e).functions = m.functions.insertAll e.registers := by
  cases e <;> rfl

lemma functions_afterAll (m : Machine E) (es : List (Event E)) :
    (m.afterAll es).functions = m.functions.insertAll (es.flatMap Event.registers) := by
  induction es generalizing m with
  | nil => rfl
  | cons e es ih =>
    rw [afterAll_cons, ih, functions_after, List.flatMap_cons, Table.insertAll_append]

variable (config : Config) (files : E.Files) (environment : Environment) (data : E.Data)

lemma functions_start_afterAll (es : List (Event E)) :
    ((start config files environment data).afterAll es).functions =
      Table.empty.insertAll (registrations es) := by
  rw [functions_afterAll, registrations, Table.insertAll_append]
  rfl

variable [Extension E]

/-- **First come, last served.** After any run the names of the functions are those that have been
registered since the start, each once, in the order in which they came first. A call by one of them
runs the function that was registered for it last; a call by any other name fails, whatever comes
with it, and changes nothing. Whatever is registered later, no name moves or goes away, and none is
added if all are known, as they are when the standard functions are registered again. -/
theorem registered_afterAll (es : List (Event E)) :
    let m := (start config files environment data).afterAll es
    let names := (registrations es).map Prod.fst
    m.functions.names = names.eraseDups ∧
    (∀ name, m.functions.contains name ↔ name ∈ names) ∧
    (∀ name args (block : Option (Block (Action E))), m.run (Action.call name args block) =
      match ((registrations es).filter (·.1 = name)).getLast? with
      | some (_, f) => m.run (Action.callFunction f args block)
      | none => (.error (.noMethod name "runtime"), m)) ∧
    (∀ more, m.functions.names <+: (m.afterAll more).functions.names) ∧
    (∀ more : List (Event E), (∀ entry ∈ more.flatMap Event.registers, entry.1 ∈ names) →
      (m.afterAll more).functions.names = m.functions.names) ∧
    (m.install standard).functions.names = m.functions.names := by
  intro m names
  have hfunctions : m.functions = Table.empty.insertAll (registrations es) :=
    functions_start_afterAll config files environment data es
  have hnames : m.functions.names = names.eraseDups := by
    rw [hfunctions, Table.names_insertAll_empty]
  have hmem (name : String) : name ∈ m.functions.names ↔ name ∈ names := by
    rw [hnames, List.mem_eraseDups]
  have hknown (entries : List (String × Function E)) (h : ∀ entry ∈ entries, entry.1 ∈ names) :
      (m.functions.insertAll entries).names = m.functions.names :=
    Table.names_insertAll_of_forall_mem _ fun entry hentry => (hmem _).mpr (h entry hentry)
  have hstandard (entry : String × Function E) (h : entry ∈ standard) : entry.1 ∈ names :=
    List.mem_map.mpr ⟨entry, List.mem_append_left _ h, rfl⟩
  refine ⟨hnames, fun name => (Table.contains_iff _ name).trans (hmem name),
    fun name args block => ?_, fun more => ?_, fun more h => ?_, hknown standard hstandard⟩
  · have hfind : m.functions.find? name =
        ((registrations es).filter (·.1 = name)).getLast?.map Prod.snd := by
      rw [hfunctions, Table.find?_insertAll]
      exact Option.or_none
    rw [run_call, hfind]
    cases ((registrations es).filter (·.1 = name)).getLast? <;> rfl
  · rw [m.functions_afterAll more, Table.names_insertAll]
    exact List.prefix_append ..
  · rw [m.functions_afterAll more]
    exact hknown (more.flatMap Event.registers) h

/-- One name comes twice, and a standard function is replaced before all of them are registered
again; then another one is replaced. -/
def replacing : List (Event (Script.scene Catalog)) :=
  [.install [("f", .extra .zero), ("Dir.pwd", .extra .zero), ("f", .extra .list)], .goTo "/d",
    .install standard, .install [("Dir.new", .extra .first), ("g", .extra .yield)]]

/-- The standard names stay in front, whatever they stand for in the end. -/
theorem registered_afterAll_replacing :
    let m := (start {} Catalog.empty ⟨[], none⟩ Script.Memory.empty).afterAll replacing
    let answer (name : String) (args : List Value) := (m.run (Action.call name args none)).1
    m.functions.names = DirFunction.named.map Prod.fst ++ ["f", "g"] ∧
      answer "f" [] = .ok (.list ⟨0⟩) ∧ answer "Dir.pwd" [] = .ok (.str "/d") ∧
      answer "Dir.new" [.int 3] = .ok (.int 3) ∧
      m.run (Action.call "h" [] none) = (.error (.noMethod "h" "runtime"), m) ∧
      (m.afterAll replacing).functions.names = m.functions.names := by
  intro m answer
  obtain ⟨hnames, -, hcall, -, hagain, -⟩ :=
    registered_afterAll {} Catalog.empty ⟨[], none⟩ Script.Memory.empty replacing
  have hlast (name : String) (args : List Value) := congrArg Prod.fst (hcall name args none)
  exact ⟨hnames, hlast "f" [], hlast "Dir.pwd" [], hlast "Dir.new" [.int 3], hcall "h" [] none,
    hagain replacing (by decide)⟩

end Machine

end Dirlang
