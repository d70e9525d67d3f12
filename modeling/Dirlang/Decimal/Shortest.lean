/-!
The fewest decimal digits that read back as a given binary number.

For a number `m * 2 ^ q` the decimals that round to it form an interval around it, whose ends
count when `m` is even. The search tries ever finer grids `10 ^ e`; on each grid only the two
neighbours of the number need a test, so the first grid with a hit has the fewest digits.
-/

namespace Dirlang

/-- The number `digits * 10 ^ exponent`. -/
structure Decimal where
  digits : Nat
  exponent : Int
deriving DecidableEq

namespace Decimal

/-- Which of two equally near decimals is taken. -/
inductive Tie
  | up
  | even
deriving DecidableEq

/-- A positive number `significand * 2 ^ exponent` among its neighbours. -/
structure Binary where
  significand : Nat
  exponent : Int
  /-- The neighbour below is half as far away as the one above. -/
  narrowBelow : Bool

/-- A quarter of the number's last binary place, and the grid step `10 ^ e`, over a common unit. -/
def scale (b : Binary) (e : Int) : Nat × Nat :=
  (Nat.pow 2 (b.exponent - 2).toNat * Nat.pow 10 (-e).toNat,
    Nat.pow 2 (2 - b.exponent).toNat * Nat.pow 10 e.toNat)

/-- Whether `n` grid steps round to the number. -/
def readsBack (b : Binary) (e : Int) (n : Nat) : Bool :=
  let (quarter, step) := scale b e
  let low := (4 * b.significand - if b.narrowBelow then 1 else 2) * quarter
  let high := (4 * b.significand + 2) * quarter
  if b.significand % 2 = 0 then low ≤ n * step && n * step ≤ high
  else low < n * step && n * step < high

/-- The nearest grid point that reads back, if one does. -/
def onGrid (tie : Tie) (b : Binary) (e : Int) : Option Nat :=
  let (quarter, step) := scale b e
  let value := 4 * b.significand * quarter
  let d := value / step
  if d = 0 then none
  else match readsBack b e d, readsBack b e (d + 1) with
    | false, false => none
    | true, false => some d
    | false, true => some (d + 1)
    | true, true =>
      match compare (value - d * step) ((d + 1) * step - value) with
      | .lt => some d
      | .gt => some (d + 1)
      | .eq => match tie with
        | .up => some (d + 1)
        | .even => some (if d % 2 = 0 then d else d + 1)

/-- An exponent that is no less than that of the number's first decimal digit. -/
def topExponent (b : Binary) : Int :=
  (b.exponent + b.significand.log2 + 1) * 30103 / 100000 + 1

/-- A digit that rolls over from nine leaves a zero, which is no digit of the shortest form. -/
def trim (d : Decimal) : Decimal :=
  if d.digits % 10 = 0 then ⟨d.digits / 10, d.exponent + 1⟩ else d

/-- The shortest decimal that reads back. Seventeen digits are always enough, and `topExponent`
is at most three places too high, so the grids listed here include one with a hit. -/
def shortest (tie : Tie) (b : Binary) : Decimal :=
  let grids := (List.range 22).map fun (i : Nat) => topExponent b - i
  let hit := grids.findSome? fun e => (onGrid tie b e).map (⟨·, e⟩)
  trim (hit.getD ⟨b.significand, 0⟩)

end Decimal

end Dirlang
