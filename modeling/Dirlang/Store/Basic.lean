import Dirlang.Dir
import Dirlang.Value

/-!
The store of lists and open directories.

An object lives in a slot until it is freed. The slot freed last is the first to be used again,
and only when no slot is free does the store grow.
-/

namespace Dirlang

inductive Object
  | list (items : List Value)
  | dir (d : Dir)

structure Store where
  slots : Array (Option Object)
  /-- Free slots, the one freed last first. -/
  spare : List Nat

namespace Store

def empty : Store := ⟨#[], []⟩

def get? (s : Store) (r : Ref) : Option Object := s.slots[r.slot]?.join

/-- The reference that the next object gets. -/
def next (s : Store) : Ref :=
  match s.spare with
  | slot :: _ => ⟨slot⟩
  | [] => ⟨s.slots.size⟩

def alloc (s : Store) (o : Object) : Ref × Store :=
  match s.spare with
  | slot :: spare => (⟨slot⟩, ⟨s.slots.setIfInBounds slot (some o), spare⟩)
  | [] => (⟨s.slots.size⟩, ⟨s.slots.push (some o), []⟩)

/-- Takes an object out of its slot. -/
def free (s : Store) (r : Ref) : Option Object × Store :=
  match s.get? r with
  | some o => (some o, ⟨s.slots.setIfInBounds r.slot none, r.slot :: s.spare⟩)
  | none => (none, s)

/-- Changes the object behind a reference, if there is one. -/
def update (s : Store) (r : Ref) (f : Object → Object) : Store :=
  { s with slots := s.slots.modify r.slot (·.map f) }

/-- The number of live objects. -/
def size (s : Store) : Nat := s.slots.size - s.spare.length

def isEmpty (s : Store) : Bool := s.size = 0

theorem alloc_fst (s : Store) (o : Object) : (s.alloc o).1 = s.next := by
  cases h : s.spare <;> simp [alloc, next, h]

/-- The items of a list value. -/
def items (s : Store) (v : Value) : Except Error (List Value) :=
  match v with
  | .list r =>
    match s.get? r with
    | some (.list items) => .ok items
    | _ => .error .danglingObject
  | _ => .error (v.mismatch "list")

/-- The items of a list value that holds strings only. -/
def strings (s : Store) (v : Value) : Except Error (List String) :=
  (s.items v).bind (·.mapM Value.expectStr)

/-- The directory behind a directory value. -/
def dir (s : Store) (v : Value) : Except Error Dir :=
  match v with
  | .dir r =>
    match s.get? r with
    | some (.dir d) => .ok d
    | _ => .error .danglingObject
  | _ => .error (v.mismatch "Dir")

/-- Changes the directory behind a directory value. -/
def updateDir (s : Store) (v : Value) (f : Dir → Dir) : Store :=
  match v with
  | .dir r => s.update r fun
    | .dir d => .dir (f d)
    | o => o
  | _ => s

def newList (s : Store) (items : List Value) : Value × Store :=
  let made := s.alloc (.list items)
  (.list made.1, made.2)

def newDir (s : Store) (d : Dir) : Value × Store :=
  let made := s.alloc (.dir d)
  (.dir made.1, made.2)

/-- Frees the object behind a value; false if there is none. -/
def release (s : Store) (v : Value) : Bool × Store :=
  match v.ref? with
  | some r => ((s.free r).1.isSome, (s.free r).2)
  | none => (false, s)

end Store

end Dirlang
