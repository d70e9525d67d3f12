import Dirlang.Constant.Basic
import Dirlang.Store.Basic

/-!
Constants as values: arrays become lists in the store, inner ones before outer ones.
-/

namespace Dirlang.Store

mutual

/-- The value of a constant. A symbol becomes the string of its name. -/
def materialize (s : Store) : Constant → Value × Store
  | .nil => (.nil, s)
  | .bool b => (.bool b, s)
  | .int i => (.int i, s)
  | .float x => (.float x, s)
  | .str t => (.str t, s)
  | .symbol name => (.str name, s)
  | .array cs =>
    let made := materializeAll s cs
    made.2.newList made.1

def materializeAll (s : Store) : List Constant → List Value × Store
  | [] => ([], s)
  | c :: cs =>
    let made := materialize s c
    let more := materializeAll made.2 cs
    (made.1 :: more.1, more.2)

end

end Dirlang.Store
