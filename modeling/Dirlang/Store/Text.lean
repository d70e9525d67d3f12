import Dirlang.Decimal.Layout
import Dirlang.Store.Basic

/-!
The text of a value, with the lists it consists of written out.
-/

namespace Dirlang

/-- Exponents are written from 1e16 and below 1e-5; between two equally short and near decimals
the one with an even last digit is taken. -/
def Value.floatLayout : Decimal.Layout := ⟨.even, -5⟩

namespace Store

/-- The text of a value whose lists nest at most `depth` deep. A dangling list shows no items and
a dangling directory no path. -/
def textWithin (s : Store) : Nat → Value → Option String
  | _, .nil => some "nil"
  | _, .bool b => some (if b then "true" else "false")
  | _, .int i => some (toString i.toInt)
  | _, .float x => some (x.text Value.floatLayout)
  | _, .str t => some t
  | _, .dir r => match s.get? r with
    | some (.dir d) => some ("#<Dir:" ++ d.path ++ ">")
    | _ => some "#<Dir>"
  | 0, .list _ => none
  | depth + 1, .list r =>
    let items := match s.get? r with
      | some (.list items) => items
      | _ => []
    (items.mapM (textWithin s depth)).map fun texts => "[" ++ ", ".intercalate texts ++ "]"

/-- The text of a value; none for a list that contains itself. Lists that do not are no deeper
than there are slots. -/
def text? (s : Store) (v : Value) : Option String := s.textWithin (s.slots.size + 1) v

end Store

end Dirlang
