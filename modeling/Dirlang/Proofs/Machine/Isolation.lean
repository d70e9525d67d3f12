import Mathlib
import Dirlang.Proofs.Machine.Methods

/-!
An open directory belongs to those who call its methods.

As long as it is not released, nothing that a program does changes it, but for the few methods that
move its cursor or close it. So the answers to all calls on it can be told from these calls alone,
whatever else went on in between.
-/

namespace Dirlang

variable {E : Embedding} {m : Machine E} {r : Ref} {d : Dir} {α β : Type}

/-! ### A directory by itself -/

/-- A method call on a directory value: what was asked, with a block or without, how it ended, and
what was inside. -/
structure Use (E : Embedding) where
  name : String
  args : List Value
  given : Bool
  outcome : Except Error Value
  inside : Trace E

/-- What a method makes of its directory, when its arguments are right. -/
def Method.effect (args : List Value) (f : Method) (d : Dir) : Dir :=
  match f, args with
  | .close, _ => d.close
  | .seek, [.int pos] | .setPos, [.int pos] => d.seek pos
  | .rewind, _ => d.rewind
  | .read, _ => d.after .read
  | _, _ => d

lemma Method.effect_of_not_moves {f : Method} (hf : ¬ f.Moves) (args : List Value) (d : Dir) :
    f.effect args d = d := by
  cases f with
  | each | entries | path | tell => rfl
  | close | seek | setPos | read | rewind => exact absurd trivial hf

/-- The method, called with right arguments on the directory `d`, which `v` is the value of, ends
as the directory by itself tells. -/
def Method.AnsweredBy (v : Value) (d : Dir) (u : Use E) : Method → Prop
  | .close => u.outcome = .ok .nil
  | .each => Visits v d.names u.inside.invocations u.outcome
  | .entries =>
    (∃ r, u.outcome = .ok (.list r)) ∧ u.inside.events = [.alloc (.list (d.names.map .str))]
  | .path => u.outcome = d.path?.map .str
  | .tell => u.outcome = .ok (.int d.pos)
  | .seek => u.outcome = .ok v
  | .setPos => u.outcome = .ok (u.args.headD .nil)
  | .read => u.outcome = d.read.map fun (name, _) => (name.map Value.str).getD .nil
  | .rewind => u.outcome = .ok (.int 0)

namespace Use

def effect (u : Use E) (d : Dir) : Dir :=
  match Method.ofName? u.name with
  | some f => match f.check u.args u.given with
    | .ok () => f.effect u.args d
    | .error _ => d
  | none => d

/-- The call ends as the directory `d` by itself tells, which `v` is the value of. -/
def AnsweredBy (v : Value) (d : Dir) (u : Use E) : Prop :=
  match Method.ofName? u.name with
  | none => u.outcome = .error (.noMethod u.name "Dir")
  | some f => match f.check u.args u.given with
    | .error e => u.outcome = .error e
    | .ok () => f.AnsweredBy v d u

variable {u : Use E} {f : Method} {v : Value}

lemma effect_of_check (hname : Method.ofName? u.name = some f)
    (hcheck : f.check u.args u.given = .ok ()) : u.effect d = f.effect u.args d := by
  simp only [effect, hname, hcheck]

lemma answeredBy_of_check (hname : Method.ofName? u.name = some f)
    (hcheck : f.check u.args u.given = .ok ()) (h : f.AnsweredBy v d u) : u.AnsweredBy v d := by
  simpa only [AnsweredBy, hname, hcheck] using h

end Use

namespace Dir

/-- The directory after calls in a row, with nothing in between. -/
def afterUses (d : Dir) (uses : List (Use E)) : Dir := uses.foldl (fun d u => u.effect d) d

/-- Calls in a row, with nothing in between, are answered as they were. -/
def Answers (v : Value) : Dir → List (Use E) → Prop
  | _, [] => True
  | d, u :: uses => u.AnsweredBy v d ∧ (u.effect d).Answers v uses

lemma afterUses_append (d : Dir) (uses more : List (Use E)) :
    d.afterUses (uses ++ more) = (d.afterUses uses).afterUses more := by
  simp [afterUses, List.foldl_append]

lemma answers_append {v : Value} {uses more : List (Use E)} :
    d.Answers v (uses ++ more) ↔ d.Answers v uses ∧ (d.afterUses uses).Answers v more := by
  induction uses generalizing d with
  | nil => simp [Answers, afterUses]
  | cons u uses ih => simp [Answers, afterUses, ih, and_assoc]

end Dir

/-! ### The calls on a directory in a trace -/

/-- A call on the directory in slot `r`. -/
def Label.use? (r : Ref) (outcome : Except Error Value) (inside : Trace E) :
    Label E → Option (Use E)
  | .call (.method (.dir r') name args) given =>
    if r' = r then some ⟨name, args, given, outcome, inside⟩ else none
  | _ => none

/-- A call of a method that changes its directory, which is the one in slot `r`. -/
def Label.Moves (r : Ref) (label : Label E) : Prop :=
  ∃ name args given f, label = .call (.method (.dir r) name args) given ∧
    Method.ofName? name = some f ∧ f.Moves

/-- The calls on the directory in slot `r`, in order, at any depth. -/
def Trace.usesOf (r : Ref) : Trace E → List (Use E)
  | nil => []
  | event _ rest => rest.usesOf r
  | part label outcome inside rest =>
    (label.use? r outcome inside).toList ++ inside.usesOf r ++ rest.usesOf r

lemma Trace.usesOf_append (r : Ref) (t u : Trace E) :
    (t ++ u).usesOf r = t.usesOf r ++ u.usesOf r := by
  induction t with
  | nil => rfl
  | event e t ih => exact ih
  | part label outcome inside t _ ih => simp [usesOf, ih]

/-- An event that belongs to a part which does not change the directory in slot `r` leaves it as it
is. -/
def Sparing (r : Ref) (owner : Option (Label E)) (m : Machine E) (e : Event E) : Prop :=
  (∀ label ∈ owner, ¬ label.Moves r) → (m.after e).store.get? r = m.store.get? r

/-- The trace treats the directory `d` in slot `r` as its own calls say, and not otherwise. -/
structure Alone (r : Ref) (owner : Option (Label E)) (m : Machine E) (d : Dir) (t : Trace E) :
    Prop where
  sparing : t.Obeys (Sparing r) owner m
  answers : d.Answers (.dir r) (t.usesOf r)
  holds : (m.afterAll t.events).store.get? r = some (.dir (d.afterUses (t.usesOf r)))

namespace Alone

variable {owner : Option (Label E)} {t u : Trace E}

lemma nil (hd : m.store.get? r = some (.dir d)) : Alone r owner m d .nil :=
  ⟨trivial, trivial, hd⟩

lemma append (ht : Alone r owner m d t)
    (hu : Alone r owner (m.afterAll t.events) (d.afterUses (t.usesOf r)) u) :
    Alone r owner m d (t ++ u) where
  sparing := Trace.obeys_append.mpr ⟨ht.sparing, hu.sparing⟩
  answers := by
    rw [Trace.usesOf_append]
    exact Dir.answers_append.mpr ⟨ht.answers, hu.answers⟩
  holds := by
    rw [Trace.usesOf_append, Dir.afterUses_append, Trace.events_append, Machine.afterAll_append]
    exact hu.holds

lemma part {label : Label E} {outcome : Except Error Value}
    (hlabel : label.use? r outcome t = none) (ht : Alone r (some label) m d t) :
    Alone r owner m d (.part label outcome t .nil) where
  sparing := ⟨ht.sparing, trivial⟩
  answers := by simpa [Trace.usesOf, hlabel] using ht.answers
  holds := by simpa [Trace.usesOf, hlabel] using ht.holds

lemma part_of_use {label : Label E} {outcome : Except Error Value} {use : Use E}
    (hlabel : label.use? r outcome t = some use) (hanswer : use.AnsweredBy (.dir r) d)
    (heffect : use.effect d = d) (ht : Alone r (some label) m d t) :
    Alone r owner m d (.part label outcome t .nil) where
  sparing := ⟨ht.sparing, trivial⟩
  answers := by
    have := ht.answers
    simpa [Trace.usesOf, hlabel, Dir.Answers, hanswer, heffect] using this
  holds := by
    have := ht.holds
    simpa [Trace.usesOf, hlabel, Dir.afterUses, heffect] using this

lemma part_of_change {label : Label E} {outcome : Except Error Value} {use : Use E} {g : Dir → Dir}
    (hd : m.store.get? r = some (.dir d)) (hmoves : label.Moves r)
    (hlabel : label.use? r outcome (.event (.change (.dir r) g) .nil) = some use)
    (hanswer : use.AnsweredBy (.dir r) d) (heffect : use.effect d = g d) :
    Alone r owner m d (.part label outcome (.event (.change (.dir r) g) .nil) .nil) where
  sparing := ⟨⟨fun hspared => absurd hmoves (hspared label rfl), trivial⟩, trivial⟩
  answers := by simpa [Trace.usesOf, hlabel, Dir.Answers] using hanswer
  holds := by
    simp [Trace.usesOf, hlabel, Dir.afterUses, heffect, Machine.after, Store.updateDir,
      Store.get?_update, hd]

end Alone

/-! ### Events that spare a directory -/

/-- The event is no change of the directory in slot `r`. -/
def Event.Spares (r : Ref) (e : Event E) : Prop := ∀ v f, e = .change v f → v ≠ .dir r

lemma Machine.get?_after_of_spares (h : m.store.Consistent) {o : Object}
    (ho : m.store.get? r = some o) {e : Event E} (he : e.Spares r) (hkept : ¬ e.Releases r) :
    (m.after e).store.get? r = some o := by
  cases e with
  | alloc o' =>
    have hne : r ≠ m.store.next := Store.ne_next h ho
    simpa [after, Store.get?_alloc h, hne] using ho
  | release v =>
    have hne : v.ref? ≠ some r := fun hv => hkept ⟨v, rfl, hv⟩
    change (m.store.release v).2.get? r = some o
    unfold Store.release
    rcases hv : v.ref? with _ | r'
    · exact ho
    · have hr : r ≠ r' := by rintro rfl; exact hne hv
      simpa [Store.get?_free, hr] using ho
  | change v f =>
    cases v with
    | dir r' =>
      have hr : r ≠ r' := by rintro rfl; exact he _ _ rfl rfl
      simpa [after, Store.updateDir, Store.get?_update, hr] using ho
    | _ => exact ho
  | _ => exact ho

/-! ### Code that leaves a directory alone -/

/-- The trace leaves the directory in slot `r` alone, if it does not release it. -/
def LeavesAlone (r : Ref) (owner : Option (Label E)) (m : Machine E) (t : Trace E) : Prop :=
  ∀ d, m.store.Consistent → m.store.get? r = some (.dir d) → ¬ Released t.events r →
    Alone r owner m d t

lemma leavesAlone_composes (r : Ref) (owner : Option (Label E)) :
    Trace.Composes (LeavesAlone r owner) where
  nil _ _ _ hd _ := .nil hd
  append {m t u} ht hu d hm hd hkept := by
    have hsplit : ¬ Released t.events r ∧ ¬ Released u.events r := by
      simpa [Released, or_imp, forall_and] using hkept
    have hfirst := ht d hm hd hsplit.1
    exact hfirst.append (hu _ (Machine.consistent_afterAll hm _) hfirst.holds hsplit.2)

/-- Wherever the code is run, its trace leaves the directory in slot `r` alone. -/
abbrev Isolated (r : Ref) (owner : Option (Label E)) (x : Traced E α) : Prop :=
  Traced.Leaves (LeavesAlone r owner) x

namespace Isolated

variable {owner : Option (Label E)}

lemma perform {e : Event E} (he : e.Spares r) :
    Isolated r owner (Dirlang.perform e : Traced E Unit) := by
  intro m d hm hd hkept
  have hkept : ¬ e.Releases r := by simpa [Dirlang.perform, Released] using hkept
  have hafter := Machine.get?_after_of_spares hm hd he hkept
  exact ⟨⟨fun _ => hafter.trans hd.symm, trivial⟩, trivial, hafter⟩

lemma openDir_bind (path : String) {f : Value → Traced E α}
    (hopen : Isolated r owner (Action.openDir path : Traced E Value))
    (hf : ∀ v, v ≠ .dir r → Isolated r owner (f v)) :
    Isolated r owner (Action.openDir path >>= f) := by
  intro m d hm hd
  have hfirst := hopen m
  rcases hended : (Action.openDir path : Traced E Value) m with ⟨e | v, t⟩ <;> rw [hended] at hfirst
  · rw [Traced.apply_bind_of_error hended]
    exact hfirst d hm hd
  · -- the new directory is in a slot that was empty, and `r` was not
    have hne : v ≠ .dir r := by
      have hrun := Machine.run_openDir m path
      rw [← Traced.uniform_act.openDir path, Traced.run_act, hended] at hrun
      split at hrun
      · obtain rfl : v = .dir m.store.next := by simpa using congrArg Prod.fst hrun
        rintro ⟨⟩
        exact Store.ne_next hm hd rfl
      · cases congrArg Prod.fst hrun
    rw [Traced.apply_bind_of_ok hended]
    exact (leavesAlone_composes r owner).append hfirst (hf v hne _) d hm hd

lemma uniform (r : Ref) (owner : Option (Label E)) :
    Uniform (· ≠ .dir r) fun α (x : Traced E α) (_ : Traced E α) => Isolated r owner x :=
  Traced.uniform_leaves (leavesAlone_composes r owner)
    (fun _ _ _ hnew => perform fun v f he => hnew v f he) fun path _ _ => openDir_bind path

end Isolated

/-! ### Calls on the directory -/

namespace Isolated

open Traced

variable {owner : Option (Label E)} {name : String} {args : List Value} {f : Method}
  {block : Option (Block (Traced E))}

abbrev Blocks (r : Ref) (block : Option (Block (Traced E))) : Prop :=
  ∀ b ∈ block, ∀ args, Isolated r (some (.block args)) (b args)

lemma part {label : Label E} {x : Traced E Value}
    (hlabel : ∀ outcome t, label.use? r outcome t = none) (hx : Isolated r (some label) x) :
    Isolated r owner (Dirlang.part label x) := by
  intro m d hm hd hkept
  have hkept : ¬ Released (x m).2.events r := by simpa [apply_part] using hkept
  exact .part (hlabel _ _) (hx m d hm hd hkept)

lemma told (hblock : Blocks r block) :
    Uniform.Blocks (fun α (x : Traced E α) (_ : Traced E α) => Isolated r owner x)
      (block.map Block.told) (block.map Block.told) := by
  cases block with
  | none => exact .none
  | some b => exact .some fun args => part (fun _ _ => rfl) (hblock b rfl args)

section

variable (hname : Method.ofName? name = some f) (hcheck : f.check args block.isSome = .ok ())
  {ended : Except Error Value × Trace E}
  (hrun : (Action.method (.dir r) args (block.map Block.told) f : Traced E Value) m = ended)
  (hanswer : f.AnsweredBy (.dir r) d ⟨name, args, block.isSome, ended.1, ended.2⟩)
include hname hcheck hrun hanswer

lemma alone_of_not_moves (hf : ¬ f.Moves) (hm : m.store.Consistent)
    (hd : m.store.get? r = some (.dir d)) (hblock : Blocks r block)
    (hkept : ¬ Released ended.2.events r) :
    Alone r owner m d
      (.part (.call (.method (.dir r) name args) block.isSome) ended.1 ended.2 .nil) := by
  refine .part_of_use (if_pos rfl) (Use.answeredBy_of_check hname hcheck hanswer) ?_ ?_
  · exact (Use.effect_of_check hname hcheck).trans (Method.effect_of_not_moves hf args d)
  · have hinside : Isolated r (some (.call (.method (.dir r) name args) block.isSome))
        (Action.method (.dir r) args (block.map Block.told) f : Traced E Value) :=
      (uniform r _).method (told hblock) (fun hmoves => absurd hmoves hf) args
    subst hrun
    exact hinside m d hm hd hkept

lemma alone_of_moves (hf : f.Moves) (hd : m.store.get? r = some (.dir d)) {g : Dir → Dir}
    (hended : ended.2 = .event (.change (.dir r) g) .nil) (heffect : f.effect args d = g d) :
    Alone r owner m d
      (.part (.call (.method (.dir r) name args) block.isSome) ended.1 ended.2 .nil) := by
  obtain ⟨outcome, t⟩ := ended
  obtain rfl : t = _ := hended
  exact .part_of_change hd ⟨name, args, _, f, rfl, hname, hf⟩ (if_pos rfl)
    (Use.answeredBy_of_check hname hcheck hanswer)
    ((Use.effect_of_check hname hcheck).trans heffect)

end

lemma alone_of_check (hname : Method.ofName? name = some f)
    (hcheck : f.check args block.isSome = .ok ()) {ended : Except Error Value × Trace E}
    (hrun : (Action.method (.dir r) args (block.map Block.told) f : Traced E Value) m = ended)
    (hm : m.store.Consistent) (hd : m.store.get? r = some (.dir d)) (hblock : Blocks r block)
    (hkept : ¬ Released ended.2.events r) :
    Alone r owner m d
      (.part (.call (.method (.dir r) name args) block.isSome) ended.1 ended.2 .nil) := by
  cases f with
  | path =>
    obtain rfl := Method.args_of_noneOf hcheck
    obtain rfl : _ = ended := (apply_path hd).symm.trans hrun
    exact alone_of_not_moves hname hcheck hrun rfl id hm hd hblock hkept
  | tell =>
    obtain rfl := Method.args_of_noneOf hcheck
    obtain rfl : _ = ended := (apply_tell hd).symm.trans hrun
    exact alone_of_not_moves hname hcheck hrun rfl id hm hd hblock hkept
  | entries =>
    obtain rfl := Method.args_of_noneOf hcheck
    obtain rfl : _ = ended := (apply_entries hd).symm.trans hrun
    exact alone_of_not_moves hname hcheck hrun ⟨⟨_, rfl⟩, rfl⟩ id hm hd hblock hkept
  | each =>
    obtain ⟨rfl, b, rfl⟩ := Method.args_of_check_each hcheck
    have hvisits := visits_each hd b
    exact alone_of_not_moves hname hcheck hrun (hrun ▸ hvisits) id hm hd hblock hkept
  | close =>
    obtain rfl := Method.args_of_noneOf hcheck
    obtain rfl : _ = ended := (apply_updateDir_bind hd Dir.close .nil).symm.trans hrun
    exact alone_of_moves hname hcheck hrun rfl trivial hd rfl rfl
  | rewind =>
    obtain rfl := Method.args_of_noneOf hcheck
    obtain rfl : _ = ended := (apply_updateDir_bind hd Dir.rewind (.int 0)).symm.trans hrun
    exact alone_of_moves hname hcheck hrun rfl trivial hd rfl rfl
  | seek =>
    obtain ⟨pos, rfl⟩ := Method.args_of_onlyOf hcheck
    obtain rfl : _ = ended := (apply_updateDir_bind hd (·.seek pos) (.dir r)).symm.trans hrun
    exact alone_of_moves hname hcheck hrun rfl trivial hd rfl rfl
  | setPos =>
    obtain ⟨pos, rfl⟩ := Method.args_of_onlyOf hcheck
    obtain rfl : _ = ended := (apply_updateDir_bind hd (·.seek pos) (.int pos)).symm.trans hrun
    exact alone_of_moves hname hcheck hrun rfl trivial hd rfl rfl
  | read =>
    obtain rfl := Method.args_of_noneOf hcheck
    obtain rfl : _ = ended := (apply_read hd).symm.trans hrun
    by_cases hopen : d.isOpen
    · exact alone_of_moves hname hcheck hrun rfl trivial hd (if_pos hopen) rfl
    · -- nothing is changed then, although the method is one that may
      rw [if_neg hopen]
      refine .part_of_use (if_pos rfl) (Use.answeredBy_of_check hname hcheck rfl) ?_ (.nil hd)
      rw [Use.effect_of_check hname hcheck]
      exact Dir.after_of_closed hopen (.inl rfl)

lemma part_use (hblock : Blocks r block) (name : String) (args : List Value) :
    Isolated r owner (Dirlang.part (.call (.method (.dir r) name args) block.isSome)
      (Action.callMethod (.dir r) name args (block.map Block.told))) := by
  intro m d hm hd hkept
  have hkept : ¬ Released ((Action.callMethod (.dir r) name args (block.map Block.told) :
      Traced E Value) m).2.events r := by simpa [apply_part] using hkept
  rw [apply_part]
  rcases hname : Method.ofName? name with _ | f
  · have hrun : (Action.callMethod (.dir r) name args (block.map Block.told) : Traced E Value) m =
        (.error (.noMethod name "Dir"), .nil) := by
      simp only [Action.callMethod, hname]
      rfl
    rw [hrun]
    refine .part_of_use (if_pos rfl) ?_ ?_ (.nil hd)
    · simp only [Use.AnsweredBy, hname]
    · simp only [Use.effect, hname]
  have hcall : (Action.callMethod (.dir r) name args (block.map Block.told) : Traced E Value) =
      Action.method (.dir r) args (block.map Block.told) f := by
    simp only [Action.callMethod, hname]
  rw [hcall] at hkept ⊢
  rcases hcheck : f.check args block.isSome with e | ⟨⟩
  · have hrefused : f.check args (block.map Block.told).isSome = .error e := by
      rw [Option.isSome_map, hcheck]
    rw [apply_method_of_check_error hrefused]
    refine .part_of_use (if_pos rfl) ?_ ?_ (.nil hd)
    · simp only [Use.AnsweredBy, hname, hcheck]
    · simp only [Use.effect, hname, hcheck]
  · exact alone_of_check hname hcheck rfl hm hd hblock hkept

/-! ### Programs -/

lemma code (hblock : Blocks r block) {c : Call E}
    (hc : ∀ name args, c ≠ .method (.dir r) name args) :
    Isolated r owner (c.code (block.map Block.told)) := by
  refine (uniform r owner).code (fun e _ hchange => perform fun v f he => ?_) (told hblock)
    (fun v name args hv => ?_) fun dir => perform nofun
  · exact absurd he (hchange v f)
  · rintro rfl
    exact hc name args hv

/-- Any call. -/
lemma part_call (hblock : Blocks r block) (c : Call E) :
    Isolated r owner
      (Dirlang.part (.call c block.isSome) (c.code (block.map Block.told)) : Traced E Value) := by
  by_cases hc : ∃ name args, c = .method (.dir r) name args
  · obtain ⟨name, args, rfl⟩ := hc
    exact part_use hblock name args
  · have hc : ∀ name args, c ≠ .method (.dir r) name args := fun name args h => hc ⟨name, args, h⟩
    -- a method called on anything else is no use of this directory
    refine part (fun _ _ => ?_) (code hblock hc)
    cases c with
    | method v name args =>
      cases v with
      | dir r' =>
        refine if_neg ?_
        rintro rfl
        exact hc name args rfl
      | _ => rfl
    | _ => rfl

/-- Programs leave a directory alone, but for the calls on it. The owner is that of the code around
the program, which has no event of its own. -/
theorem run (p : Program E) (owner : Option (Label E)) : Isolated r owner p.run :=
  Program.leaves_run ⟨leavesAlone_composes r, fun _ c _ hblock => part_call hblock c⟩ p owner

end Isolated

namespace Machine

/-- **An open directory belongs to its callers.** Let a directory be in slot `r`, and let any
program run that does not release it. The program does just what its trace tells. No event changes
the directory unless it belongs to a call that moves it, at whatever depth: reading, putting the
cursor, closing. And the calls on the directory are answered, and leave it, as if they were all
that ever happened. Which method a name calls is said by `Machine.run_callMethod`. -/
theorem isolation (hm : m.Reachable) (hd : m.store.get? r = some (.dir d)) (p : Program E) :
    let traced := (p.run : Traced E Value) m
    ¬ Released traced.2.events r →
      m.run p.run = (traced.1, m.afterAll traced.2.events) ∧
      traced.2.Obeys (Sparing r) none m ∧
      d.Answers (.dir r) (traced.2.usesOf r) ∧
      (m.run p.run).2.store.get? r = some (.dir (d.afterUses (traced.2.usesOf r))) := by
  intro traced hkept
  have hrun : m.run p.run = (traced.1, m.afterAll traced.2.events) := by
    rw [← Program.act_run p, Traced.run_act]
  have halone : Alone r none m d traced.2 := Isolated.run p none m d hm.consistent hd hkept
  exact ⟨hrun, halone.sparing, halone.answers, hrun ▸ halone.holds⟩

/-- Reads a directory, opens the same one again for a block that reads it and replaces the files,
lets the new one go, and reads the first again. -/
def interleaving (r : Ref) (files : Catalog) : Program (Script.scene Catalog) :=
  .call (.method (.dir r) "read" []) none fun _ =>
  .call (.function .openDir [.str "/"])
    (some fun args =>
      .call (.method (args.headD .nil) "read" []) none fun _ =>
      .call (.files files) none fun _ =>
      .call (.release (args.headD .nil)) none .done) fun _ =>
  .call (.method (.dir r) "read" []) none .done

/-- What the program leaves behind when the first directory is in slot 0. -/
def interleaved : Except Error Value × Trace (Script.scene Catalog) :=
  ((interleaving ⟨0⟩ Catalog.empty).run : Traced (Script.scene Catalog) Value) (atRoot.opened "/")

/-- The first directory answers its names as if it had been read twice in a row. -/
theorem isolation_interleaving :
    let d : Dir := ⟨"/", [".", ".."], 0, true⟩
    (atRoot.opened "/").Reachable ∧ (atRoot.opened "/").store.get? ⟨0⟩ = some (.dir d) ∧
      ¬ Released interleaved.2.events ⟨0⟩ ∧
      (atRoot.opened "/").run (interleaving ⟨0⟩ Catalog.empty).run =
        (.ok (.str ".."), (atRoot.opened "/").afterAll interleaved.2.events) ∧
      ((atRoot.opened "/").run (interleaving ⟨0⟩ Catalog.empty).run).2.store.get? ⟨0⟩ =
        some (.dir (d.seek 2)) := by
  have hm : (atRoot.opened "/").Reachable := reachable_atRoot.afterAll
    [.alloc (.dir (.ofListing "/" (Dir.listing atRoot.files (atRoot.resolve "/"))))]
  have hd : (atRoot.opened "/").store.get? ⟨0⟩ = some (.dir ⟨"/", [".", ".."], 0, true⟩) := rfl
  have hkept : ¬ Released interleaved.2.events ⟨0⟩ := by decide +kernel
  have hended : interleaved.1 = .ok (.str "..") := by cbv
  have hafter : Dir.afterUses ⟨"/", [".", ".."], 0, true⟩ (interleaved.2.usesOf ⟨0⟩) =
      ⟨"/", [".", ".."], 2, true⟩ := by decide +kernel
  obtain ⟨hrun, -, -, hholds⟩ := isolation hm hd (interleaving ⟨0⟩ Catalog.empty) hkept
  refine ⟨hm, hd, hkept, ?_, ?_⟩
  · rw [hrun, ← hended]
    rfl
  · exact hholds.trans (congrArg (some <| Object.dir ·) hafter)

end Machine

end Dirlang
