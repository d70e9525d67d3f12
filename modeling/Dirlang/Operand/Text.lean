import Dirlang.Decimal.Layout
import Dirlang.Operand.Basic
import Dirlang.Text.Quoted

/-!
The text of an operand, as listings of a program show it.

Strings are quoted, a symbol and a variable are marked by a colon and a percent sign, and an array
shows its elements between brackets; the blank array shows none.
-/

namespace Dirlang

/-- Exponents are written from 1e16 and below 1e-4; between two equally short and near decimals
the larger is taken. -/
def Literal.floatLayout : Decimal.Layout := ⟨.up, -4⟩

def Literal.text : Literal → String
  | .bool b => if b then "true" else "false"
  | .int i => toString i.toInt
  | .float x => x.text floatLayout
  | .str s => Text.quoted s
  | .symbol name => ":" ++ name

namespace Operand

mutual

def text : Operand → String
  | .nil => "nil"
  | .literal l => l.text
  | .var v => "%" ++ v.name
  | .array [] => "Array:"
  | .array (x :: xs) => "Array:[" ++ text x ++ textMore xs ++ "]"

/-- The texts of further elements, each after a comma. -/
def textMore : List Operand → String
  | [] => ""
  | x :: xs => ", " ++ text x ++ textMore xs

end

end Operand

end Dirlang
