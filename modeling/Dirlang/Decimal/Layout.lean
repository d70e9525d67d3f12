import Dirlang.Decimal.Shortest
import Dirlang.Double

/-!
The text of a double: its shortest digits, written positionally or with an exponent.

The two places that write doubles differ in one `Layout` value each.
-/

namespace Dirlang

namespace Decimal

/-- How a decimal is laid out. -/
structure Layout where
  tie : Tie
  /-- The least exponent of the first digit that is still written positionally. -/
  least : Int

/-- From this exponent of the first digit on, the exponent is written out. -/
def Layout.bound : Int := 16

/-- The text of `d`, whose first digit stands at `10 ^ first`. -/
def layOut (l : Layout) (d : Decimal) : String :=
  let ds := Nat.toDigits 10 d.digits
  let first : Int := d.exponent + ds.length - 1
  let zeros (n : Int) := List.replicate n.toNat '0'
  String.ofList <|
    if first < l.least || Layout.bound ≤ first then
      let fractional := if ds.length ≤ 1 then [] else '.' :: ds.drop 1
      ds.take 1 ++ fractional ++ 'e' :: (toString first).toList
    else if 0 ≤ d.exponent then ds ++ zeros d.exponent ++ ['.', '0']
    else if 0 ≤ first then ds.take (first + 1).toNat ++ '.' :: ds.drop (first + 1).toNat
    else '0' :: '.' :: zeros (-first - 1) ++ ds

end Decimal

namespace Double

open Decimal

/-- The text of a double; a NaN has no sign. -/
def text (l : Layout) (x : Double) : String :=
  if x.isNaN then "NaN"
  else
    let magnitude :=
      if x.isInfinite then "inf"
      else if x.isZero then "0.0"
      else layOut l (shortest l.tie ⟨x.significand, x.exponent, x.narrowBelow⟩)
    if x.isNegative then "-" ++ magnitude else magnitude

end Double

end Dirlang
