import Mathlib
import Dirlang.Proofs.Machine.Enumeration
import Dirlang.Proofs.Machine.Observed

/-!
Calling with items in turn.

A block may do anything to the machine, also to the directory whose names it is being called with.
The names that it gets are those that the directory had at the start, and between two invocations
nothing happens.
-/

namespace Dirlang

variable {ι σ α : Type}

/-- A call with one item: the state before it, and how it ended. -/
structure Turn (ι σ α : Type) where
  item : ι
  start : σ
  ended : Except Error α × σ

/-- From `s` there are calls with the items in turn, up to and including the first one that fails;
`ended` is what comes of it. -/
structure InTurn (call : ι → σ → Except Error α × σ) (items : List ι) (s : σ)
    (turns : List (Turn ι σ α)) (ended : Except Error Unit × σ) : Prop where
  called : ∀ t ∈ turns, t.ended = call t.item t.start
  ordered : turns.map Turn.item <+: items
  /-- The first call starts from `s`, and each other one from where the one before it ended. -/
  threaded : s :: turns.map (·.ended.2) = turns.map Turn.start ++ [ended.2]
  /-- Only the last call may fail. -/
  goesOn : ∀ t ∈ turns.dropLast, t.ended.1.isOk
  /-- The last call fails, or all calls are made and succeed. -/
  outcome : (∃ t e, turns.getLast? = some t ∧ t.ended.1 = .error e ∧ ended.1 = .error e) ∨
    turns.map Turn.item = items ∧ (∀ t ∈ turns, t.ended.1.isOk) ∧ ended.1 = .ok ()

namespace InTurn

variable {call : ι → σ → Except Error α × σ} {item : ι} {items : List ι} {s s' : σ}
  {turns : List (Turn ι σ α)} {ended : Except Error Unit × σ}

lemma nil (call : ι → σ → Except Error α × σ) (s : σ) : InTurn call [] s [] (.ok (), s) where
  called := nofun
  ordered := List.prefix_rfl
  threaded := rfl
  goesOn := nofun
  outcome := .inr ⟨rfl, nofun, rfl⟩

lemma fail {e : Error} (h : call item s = (.error e, s')) (items : List ι) :
    InTurn call (item :: items) s [⟨item, s, (.error e, s')⟩] (.error e, s') where
  called := by simp [h]
  ordered := by simp
  threaded := rfl
  goesOn := nofun
  outcome := .inl ⟨_, e, rfl, rfl, rfl⟩

lemma kept {P : σ → Prop} (h : InTurn call items s turns ended) (hs : P s)
    (hkeep : ∀ t ∈ turns, P t.start → P t.ended.2) : P ended.2 := by
  have hthreaded := h.threaded
  clear h
  induction turns generalizing s with
  | nil =>
    obtain ⟨rfl, -⟩ := List.cons.inj hthreaded
    exact hs
  | cons t turns ih =>
    obtain ⟨rfl, hrest⟩ := List.cons.inj hthreaded
    obtain ⟨ht, hturns⟩ := List.forall_mem_cons.mp hkeep
    exact ih (ht hs) hturns hrest

lemma cons {a : α} (h : call item s = (.ok a, s')) (hrest : InTurn call items s' turns ended) :
    InTurn call (item :: items) s (⟨item, s, (.ok a, s')⟩ :: turns) ended where
  called := List.forall_mem_cons.mpr ⟨h.symm, hrest.called⟩
  ordered := by simpa using hrest.ordered
  threaded := congrArg (s :: ·) hrest.threaded
  goesOn := by
    have hgoesOn := hrest.goesOn
    cases turns with
    | nil => simp
    | cons t turns =>
      rw [List.dropLast_cons_cons]
      exact List.forall_mem_cons.mpr ⟨rfl, hgoesOn⟩
  outcome := by
    obtain ⟨t, e, hlast, ht, hended⟩ | ⟨hitems, hok, hended⟩ := hrest.outcome
    · refine .inl ⟨t, e, ?_, ht, hended⟩
      rw [List.getLast?_cons, hlast]
      rfl
    · exact .inr ⟨congrArg (item :: ·) hitems, List.forall_mem_cons.mpr ⟨rfl, hok⟩, hended⟩

end InTurn

/-! ### Visitors -/

abbrev Stateful (σ : Type) : Type → Type := ExceptT Error (StateM σ)

/-- A visitor as code. -/
def visiting (visit : String → σ → Except Error Unit × σ) : String → Stateful σ Unit :=
  fun name => ExceptT.mk fun s => visit name s

/-- The visitor with a record of its turns. -/
def recorded (visit : String → σ → Except Error Unit × σ) :
    String → σ × List (Turn String σ Unit) →
      Except Error Unit × (σ × List (Turn String σ Unit)) :=
  fun name (s, turns) =>
    let ended := visit name s
    (ended.1, (ended.2, turns ++ [⟨name, s, ended⟩]))

lemma run_visiting_cons (visit : String → σ → Except Error Unit × σ) (name : String)
    (names : List String) (s : σ) :
    (forM (name :: names) (visiting visit) : Stateful σ Unit) s = match visit name s with
      | (.ok _, s') => (forM names (visiting visit) : Stateful σ Unit) s'
      | (.error e, s') => (.error e, s') := by
  rw [List.forM_cons]
  change (ExceptT.bindCont (fun _ => forM names (visiting visit)) (visit name s).1 :
    StateM σ (Except Error Unit)) (visit name s).2 = _
  rcases visit name s with ⟨e | u, s'⟩ <;> rfl

/-- A visitor takes its turns, and the record does not change what it does. -/
lemma inTurn_visiting (visit : String → σ → Except Error Unit × σ) (names : List String) (s : σ)
    (before : List (Turn String σ Unit)) :
    let ended := (forM names (visiting visit) : Stateful σ Unit) s
    ∃ turns, InTurn visit names s turns ended ∧
      (forM names (visiting (recorded visit)) : Stateful _ Unit) (s, before) =
        (ended.1, (ended.2, before ++ turns)) := by
  -- the record is kept behind the state, which is all that the visitor sees of it
  induction names generalizing s before with
  | nil => exact ⟨[], .nil visit s, congrArg (Except.ok (), s, ·) (List.append_nil before).symm⟩
  | cons name names ih =>
    rw [run_visiting_cons, run_visiting_cons]
    rcases hname : visit name s with ⟨e | u, s'⟩
    · refine ⟨_, .fail hname names, ?_⟩
      simp [recorded, hname]
    · obtain ⟨turns, hturns, hrecord⟩ := ih s' (before ++ [⟨name, s, (.ok u, s')⟩])
      refine ⟨_, .cons hname hturns, ?_⟩
      simp only [recorded, hname]
      rw [hrecord, List.append_assoc]
      rfl

/-! ### Blocks -/

variable {E : Embedding} {m : Machine E} {r : Ref} {d : Dir}

/-- An invocation of a block as a turn. -/
def Invocation.turn (i : Invocation E) : Turn (List Value) (Machine E) Value :=
  ⟨i.args, i.start, i.ended⟩

namespace Observed

lemma apply_discard_observed (b : Block (Action E)) (args : List Value) (m : Machine E) :
    (discard (b.observed args) : Observed E Unit) m =
      (((m.run (b args)).1.map fun _ => (), (m.run (b args)).2),
        [⟨args, m, m.run (b args)⟩]) := by
  have hdiscard : (discard (b.observed args) : Observed E Unit) =
      b.observed args >>= fun _ => pure () := rfl
  rw [hdiscard, apply_bind, Block.observed]
  rcases m.run (b args) with ⟨e | w, m'⟩ <;> rfl

lemma inTurn_forM (b : Block (Action E)) (names : List String) (m : Machine E) :
    let visited := (forM names fun name => discard (b.observed [.str name]) : Observed E Unit) m
    InTurn (fun args m => m.run (b args)) (names.map ([.str ·])) m
      (visited.2.map Invocation.turn) visited.1 := by
  induction names generalizing m with
  | nil => exact .nil _ m
  | cons name names ih =>
    have hname := apply_discard_observed b [.str name] m
    rw [List.forM_cons, apply_bind, hname]
    rcases hrun : m.run (b [.str name]) with ⟨e | w, m'⟩
    · exact .fail hrun _
    · exact .cons hrun (ih m')

lemma apply_each (hd : m.store.get? r = some (.dir d)) (b : Block (Observed E)) :
    (Action.callMethod (.dir r) "each" [] (some b) : Observed E Value) m =
      let visited := (Action.eachName d b : Observed E Unit) m
      ((visited.1.1.map fun _ => .dir r, visited.1.2), visited.2) := by
  have hdir : (Action.dir (.dir r) : Observed E Dir) m = ((.ok d, m), []) := by
    rw [Action.dir, apply_look_bind, apply_lift]
    simp [Store.dir, hd]
  change (Action.dir (.dir r) >>= fun d => Action.eachName d b >>= fun _ => pure (.dir r) :
    Observed E Value) m = _
  rw [apply_bind_of_ok hdir, apply_bind]
  rcases (Action.eachName d b : Observed E Unit) m with ⟨⟨e | u, m'⟩, calls⟩
  · rfl
  · exact congrArg _ (List.append_nil calls)

end Observed

namespace Machine

/-- **Iteration follows the names that were there at the start.** Let `d` be in the slot of a
directory value, open or closed, and let any block be given. The names of `d` take their turns with
the block; then the call ends with the failure of the last turn, or answers the value, on the
machine that the last turn left. Any visitor of `d` itself takes its turns in the same way. -/
theorem each_in_turn (hd : m.store.get? r = some (.dir d)) (b : Block (Action E)) :
    (∃ invocations ended,
      InTurn (fun args m => m.run (b args)) (d.names.map ([.str ·])) m
        (invocations.map Invocation.turn) ended ∧
      (Action.callMethod (.dir r) "each" [] (some b.observed) : Observed E Value) m =
        ((ended.1.map fun _ => .dir r, ended.2), invocations) ∧
      m.run (Action.callMethod (.dir r) "each" [] (some b)) =
        (ended.1.map fun _ => .dir r, ended.2)) ∧
    ∀ (σ : Type) (visit : String → σ → Except Error Unit × σ) (s : σ),
      ∃ turns ended, InTurn visit d.names s turns ended ∧
        (d.each (visiting (recorded visit)) : Stateful _ Unit) (s, []) =
          (ended.1, (ended.2, turns)) ∧
        (d.each (visiting visit) : Stateful σ Unit) s = ended := by
  constructor
  · have htraced := Observed.apply_each hd b.observed
    have hact := Action.act_callMethod_observed (some b) (.dir r) "each" []
    refine ⟨_, _, Observed.inTurn_forM b d.names m, htraced, ?_⟩
    rw [← hact, Observed.run_act]
    exact congrArg Prod.fst htraced
  · intro σ visit s
    obtain ⟨turns, hturns, hrecord⟩ := inTurn_visiting visit d.names s []
    exact ⟨turns, _, hturns, hrecord, rfl⟩

/-- Closes its directory, then releases it and puts a list in its place, and then fails. -/
def disturbing (r : Ref) : Block (Action E)
  | [.str "."] => Action.callMethod (.dir r) "close" [] none
  | [.str ".."] => do
    let _ ← Action.release (.dir r)
    Action.newList []
  | _ => throw (.argument "stop")

/-- The third of four names is the last that is visited, though the directory is long gone. -/
theorem each_in_turn_disturbed :
    let m := twoNames.opened "/"
    let names := [".", "..", "b", "a"]
    let ended := m.run (Action.callMethod (.dir ⟨0⟩) "each" [] (some (disturbing ⟨0⟩)))
    m.store.get? ⟨0⟩ = some (.dir ⟨"/", names, 0, true⟩) ∧
      ended.1 = .error (.argument "stop") ∧ ended.2.store.get? ⟨0⟩ = some (.list []) ∧
      ∃ turns last, InTurn (fun args m => m.run (disturbing ⟨0⟩ args)) (names.map ([.str ·])) m
        turns (.error (.argument "stop"), last) ∧ turns.length = 3 := by
  intro m names ended
  have hd : m.store.get? ⟨0⟩ = some (.dir ⟨"/", names, 0, true⟩) := rfl
  refine ⟨hd, rfl, rfl, ?_⟩
  obtain ⟨⟨invocations, ⟨outcome, last⟩, hturns, htraced, -⟩, -⟩ := each_in_turn hd (disturbing ⟨0⟩)
  have hlength : 3 = (invocations.map Invocation.turn).length := by
    rw [List.length_map]
    exact congrArg (fun ended => ended.2.length) htraced
  have houtcome : Except.error (.argument "stop") = outcome.map fun _ => Value.dir ⟨0⟩ :=
    congrArg (fun ended => ended.1.1) htraced
  cases outcome with
  | ok u => cases houtcome
  | error e =>
    cases houtcome
    exact ⟨_, last, hturns, hlength.symm⟩

end Machine

end Dirlang
