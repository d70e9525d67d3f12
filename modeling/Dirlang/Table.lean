/-!
Tables of named functions, in the order in which the names were first put in.
-/

namespace Dirlang

structure Table (α : Type) where
  entries : List (String × α)

namespace Table

variable {α : Type}

def empty : Table α := ⟨[]⟩

def names (t : Table α) : List String := t.entries.map (·.1)

def find? (t : Table α) (name : String) : Option α := t.entries.lookup name

def contains (t : Table α) (name : String) : Bool := (t.find? name).isSome

/-- Replaces the entry of a name where it stands, or appends a new one. -/
def put (name : String) (value : α) : List (String × α) → List (String × α)
  | [] => [(name, value)]
  | (k, v) :: rest => if k = name then (k, value) :: rest else (k, v) :: put name value rest

def insert (t : Table α) (name : String) (value : α) : Table α := ⟨put name value t.entries⟩

def insertAll (t : Table α) (entries : List (String × α)) : Table α :=
  entries.foldl (fun t (name, value) => t.insert name value) t

end Table

end Dirlang
