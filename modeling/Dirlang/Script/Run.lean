import Dirlang.Machine.Functions
import Dirlang.Operand.Fold
import Dirlang.Script.Basic
import Dirlang.Store.Constants
import Dirlang.Store.Text

/-!
Running scripts.
-/

namespace Dirlang.Script

abbrev scene (F : Type) [FileSystem F] : Embedding where
  Files := F
  Extra := Sample
  Data := Memory

variable {F : Type} [FileSystem F]

instance : Extension (scene F) where
  run
    | .zero, _, _ => return .int 0
    | .first, args, _ => return args.headD .nil
    | .list, args, _ => Action.newList args
    | .yield, args, block => match block with
      | some block => block args
      | none => throw (.argument "yield needs a block")

abbrev Run (F : Type) [FileSystem F] (α : Type) := StateM (Machine (scene F)) α

def onMemory (f : Memory → Memory) : Run F Unit := modify fun m => m.after (.data (f m.data))

/-- The outcome of an action. -/
def outcome {α : Type} (a : Action (scene F) α) : Run F (Except Error α) := (·.run a)

/-- A run as an action that does not fail. -/
def unfailing {α : Type} (r : Run F α) : Action (scene F) α := fun m =>
  let ended := r m
  (.ok ended.1, ended.2)

namespace Expr

mutual

def eval : Expr → Run F Value
  | .const v => return v
  | .var name => return ((← get).data.vars.find? name).getD .nil
  | .arg i => return ((← get).data.frames.headD []).getD i .nil
  | .list items => do
    let vs ← evalAll items
    modifyGet fun m =>
      let made := m.store.newList vs
      (made.1, { m with store := made.2 })

/-- Left to right. -/
def evalAll : List Expr → Run F (List Value)
  | [] => return []
  | x :: xs => do
    let v ← eval x
    return v :: (← evalAll xs)

end

end Expr

/-- The text of a value; of an endless one, nothing. -/
def textOf (v : Value) : Run F String := return ((← get).store.text? v).getD ""

def showValue (v : Value) : Run F Answer := do
  match v.ref? with
  | some _ => return .value v (some (← textOf v))
  | none => return .value v none

def answer {α : Type} (f : α → Run F Answer) : Except Error α → Run F (Except Error Answer)
  | .ok a => return .ok (← f a)
  | .error e => return .error e

/-- Runs a call with a fresh log, and hands out what the call logged. -/
def logged (a : Action (scene F) Value) : Run F (Except Error Answer × List Trace) := do
  onMemory fun d => { d with logs := [] :: d.logs }
  let result ← outcome a
  let log := (← get).data.logs.headD []
  onMemory fun d => { d with logs := d.logs.tail }
  return (← answer showValue result, log)

/-- Counts the invocations of the innermost running call so far. -/
def invocations : Run F Nat := return ((← get).data.logs.headD []).length

def log (i : Trace) : Run F Unit := onMemory fun d =>
  { d with logs := match d.logs with
      | [] => []
      | l :: ls => (l ++ [i]) :: ls }

/-- A step that calls no code of the script. -/
def plain (r : Run F (Except Error Answer)) : Run F (Except Error Answer × List Trace) :=
  return (← r, [])

def Answer.value? : Answer → Option Value
  | .value v _ => some v
  | _ => none

/-- Keeps the value of a step that succeeded. -/
def keep (name : Option String) (outcome : Except Error Answer) : Run F Unit :=
  match name, outcome.toOption.bind Answer.value? with
  | some name, some v => onMemory fun d => { d with vars := d.vars.put name v }
  | _, _ => return ()

/-- How a body ends, when `failed` is the error of a step that propagates. -/
def conclude (failed : Option Error) (setUp : Option Error) (result : Expr) :
    Run F (Except Error Value) :=
  match failed, setUp with
  | some e, _ => return .error e
  | none, some e => return .error e
  | none, none => return .ok (← result.eval)

mutual

def Command.run : Command F → Run F (Except Error Answer × List Trace)
  | .call name args block => do
    let args ← Expr.evalAll args
    logged (Action.call name args (blockOf block))
  | .method x name args block => do
    let v ← x.eval
    let args ← Expr.evalAll args
    logged (Action.callMethod v name args (blockOf block))
  | .eval x => plain do return .ok (← showValue (← x.eval))
  | .openDir path => plain do answer showValue (← outcome (Action.openDir path))
  | .materialize x => plain do
    match x.toConstant? with
    | none => return .ok .notConstant
    | some c =>
      let v ← modifyGet fun m =>
        let made := m.store.materialize c
        (made.1, { m with store := made.2 })
      return .ok (← showValue v)
  | .within dir steps result => do
    let body : Run F (List Report × Except Error Value) := do
      let (reports, failed) ← runSteps steps
      return (reports, ← conclude failed none result)
    match ← outcome (Action.within dir (unfailing body)) with
    | .ok (reports, value) => return (← answer showValue value, [.scope reports])
    | .error e => return (.error e, [])
  | .release x => plain do
    let v ← x.eval
    answer (fun b => return .bool b) (← outcome (Action.release v))
  | .text x => plain do return .ok (.text (← textOf (← x.eval)))
  | .typeName x => plain do return .ok (.text (← x.eval).typeName)
  | .equal x y => plain do
    let v ← x.eval
    return .ok (.bool (v.numEq (← y.eval)))
  | .items x => plain do
    let v ← x.eval
    answer (fun vs => return .values vs) ((← get).store.items v)
  | .strings x => plain do
    let v ← x.eval
    answer (fun names => return .strings names) ((← get).store.strings v)
  | .dir x => plain do
    let v ← x.eval
    answer (fun d => return .dir d) ((← get).store.dir v)
  | .install entries => plain do
    modify (·.after (.install (entries.map fun (name, f) => (name, .extra f))))
    return .ok .done
  | .installStandard => plain do
    modify (·.after (.install Machine.standard))
    return .ok .done
  | .names => plain do return .ok (.strings (← get).functions.names)
  | .has name => plain do return .ok (.bool ((← get).functions.contains name))
  | .raise e => plain do return .error e
  | .editFiles f => plain do
    modify fun m => m.after (.files (f m.files))
    return .ok .done
  | .setEnvironment vars workDir => plain do
    modify (·.after (.environment ⟨vars, workDir⟩))
    return .ok .done

/-- The report of a step, and its error if that ends the script. -/
def Step.run : Step F → Run F (Report × Option Error)
  | .mk command keepAs propagate => do
    let (outcome, inside) ← command.run
    keep keepAs outcome
    let m ← get
    let failed := match outcome with
      | .error e => if propagate then some e else none
      | .ok _ => none
    return (.mk outcome m.currentDir m.store.size inside, failed)

/-- Runs steps up to the first whose failure ends the script. -/
def runSteps : List (Step F) → Run F (List Report × Option Error)
  | [] => return ([], none)
  | step :: steps => do
    let (report, failed) ← step.run
    match failed with
    | some e => return ([report], some e)
    | none =>
      let (reports, failed) ← runSteps steps
      return (report :: reports, failed)

/-- A body as a block. -/
def Body.run : Body F → Block (Action (scene F))
  | .mk steps result failing => fun args => show Action (scene F) Value from fun m => (do
    let k ← invocations
    onMemory fun d => { d with frames := args :: d.frames }
    let (reports, failed) ← runSteps steps
    let setUp := failing.bind fun (n, e) => if n = k then some e else none
    let value ← conclude failed setUp result
    onMemory fun d => { d with frames := d.frames.tail }
    log (.invocation args value reports)
    return value : Run F (Except Error Value)) m

def blockOf : Option (Body F) → Option (Block (Action (scene F)))
  | none => none
  | some body => some (body.run)

end

/-- What a script starts from. -/
structure Session (F : Type) where
  config : Config
  files : F
  environment : Environment
  steps : List (Step F)

namespace Session

def start (s : Session F) : Machine (scene F) :=
  Machine.start s.config s.files s.environment Memory.empty

/-- The reports of all steps, up to the one that ends the script. -/
def run (s : Session F) : List Report := (runSteps s.steps s.start).1.1

end Session

end Dirlang.Script
