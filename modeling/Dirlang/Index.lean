/-!
Values by key, where no order shows; the first entry of a key counts.
-/

namespace Dirlang

abbrev Index (α : Type) := List (String × α)

namespace Index

variable {α : Type}

def find? (x : Index α) (key : String) : Option α := x.lookup key

def remove (x : Index α) (key : String) : Index α := x.filter fun (k, _) => k ≠ key

def put (x : Index α) (key : String) (value : α) : Index α := (key, value) :: x.remove key

/-- Sets every key that comes with a value and removes every key that comes without. -/
def update (x : Index α) (changes : Index (Option α)) : Index α :=
  changes.foldl (fun x (key, value) => match value with
    | some v => x.put key v
    | none => x.remove key) x

end Index

end Dirlang
