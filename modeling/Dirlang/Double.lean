/-!
Binary64 numbers, kept as bit patterns.

Two doubles are the same when their bits are. `Double.numEq` compares them as numbers: a NaN
differs from everything, itself included, and the two zeros are equal.
-/

namespace Dirlang

/-- A binary64 number; equality is equality of bits. -/
structure Double where
  bits : UInt64
deriving DecidableEq, Inhabited

namespace Double

def isNegative (x : Double) : Bool := Nat.pow 2 63 ≤ x.bits.toNat

def exponentField (x : Double) : Nat := x.bits.toNat / Nat.pow 2 52 % Nat.pow 2 11

def fraction (x : Double) : Nat := x.bits.toNat % Nat.pow 2 52

def isNaN (x : Double) : Bool := x.exponentField = 2047 && x.fraction ≠ 0

def isInfinite (x : Double) : Bool := x.exponentField = 2047 && x.fraction = 0

def isZero (x : Double) : Bool := x.exponentField = 0 && x.fraction = 0

/-- A finite double is `significand * 2 ^ exponent`, up to its sign. -/
def significand (x : Double) : Nat :=
  if x.exponentField = 0 then x.fraction else Nat.pow 2 52 + x.fraction

def exponent (x : Double) : Int := (max x.exponentField 1 : Nat) - 1075

/-- Below a power of two the next double is only half as far away as above it. -/
def narrowBelow (x : Double) : Bool := x.fraction = 0 && 1 < x.exponentField

/-- Equality of numbers. -/
def numEq (x y : Double) : Bool :=
  !x.isNaN && !y.isNaN && (x == y || (x.isZero && y.isZero))

end Double

end Dirlang
