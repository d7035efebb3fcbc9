import GamepadPool.Number
/-! # Binary floating-point formats
A format keeps `precision` significant bits down to a least exponent and rounds to the nearest value, a tie
going to the even neighbour. -/

namespace GamepadPool

/-- A binary interchange format. -/
structure BinaryFormat where
  /-- Significant bits, the leading one included. -/
  precision : Nat
  /-- Bits of the exponent field. -/
  exponentBits : Nat

namespace BinaryFormat

def single : BinaryFormat := ⟨24, 8⟩
def double : BinaryFormat := ⟨53, 11⟩

variable (f : BinaryFormat)

/-- Largest exponent of a finite value. -/
def maxExponent : Int := (Nat.pow 2 (f.exponentBits - 1) : Nat) - 1

/-- Exponent of the last bit of the smallest values. -/
def minUnit : Int := 2 - f.maxExponent - f.precision

/-- The quotient of two naturals to the nearest natural, ties to even. -/
def divNearest (n d : Nat) : Nat :=
  let q := n / d
  let rest := 2 * (n % d)
  if d < rest || (rest == d && q % 2 == 1) then q + 1 else q

/-- The largest `e` with `2 ^ e * d ≤ n`. -/
def exponentOf (n d : Nat) : Int :=
  let e : Int := (Nat.log2 n : Int) - (Nat.log2 d : Int)
  let fits := if 0 ≤ e then Nat.pow 2 e.toNat * d ≤ n else d ≤ n * Nat.pow 2 (-e).toNat
  if fits then e else e - 1

/-- Exponent of the last bit kept of `n / d`. -/
def unitOf (n d : Nat) : Int := max (exponentOf n d - (f.precision - 1)) f.minUnit

/-- `n / d` as a multiple of `2 ^ unit`, rounded. -/
def significand (n d : Nat) (unit : Int) : Nat :=
  if 0 ≤ unit then divNearest n (d * Nat.pow 2 unit.toNat) else divNearest (n * Nat.pow 2 (-unit).toNat) d

/-- `m * 2 ^ unit` as a rational. -/
def scaled (m : Nat) (unit : Int) : Rat :=
  if 0 ≤ unit then ((m * Nat.pow 2 unit.toNat : Nat) : Rat) else mkRat m (Nat.pow 2 (-unit).toNat)

/-- Nearest value of the format, ties to even; beyond the largest value, an infinity. -/
def round (q : Rat) : Number :=
  if q = 0 then .rat 0
  else
    let negative := decide (q < 0)
    let n := q.num.natAbs
    let unit := f.unitOf n q.den
    let m := significand n q.den unit
    let v := scaled m unit
    if m = 0 then (if negative then .negZero else .rat 0)
    else if (2 : Rat) ^ (f.maxExponent + 1).toNat ≤ v then .infinite negative
    else .rat (if negative then -v else v)

/-- A number taken over from another format. -/
def convert : Number → Number
  | .rat q => f.round q
  | x => x

/-- The stored word: sign, exponent field, fraction. Every zero is written as the positive one. -/
def word : Number → Nat
  | .nan => (Nat.pow 2 (f.exponentBits + 1) - 1) * Nat.pow 2 (f.precision - 2)
  | .infinite negative =>
    (Nat.pow 2 f.exponentBits - 1) * Nat.pow 2 (f.precision - 1)
      + (if negative then Nat.pow 2 (f.exponentBits + f.precision - 1) else 0)
  | .negZero => 0
  | .rat q =>
    if q = 0 then 0
    else
      let n := q.num.natAbs
      let unit := f.unitOf n q.den
      let m := significand n q.den unit
      let sign := if q < 0 then Nat.pow 2 (f.exponentBits + f.precision - 1) else 0
      sign + (unit - f.minUnit).toNat * Nat.pow 2 (f.precision - 1) + m

end BinaryFormat

/-- Axis values are single precision, rendering is double precision. -/
@[reducible] def Arithmetic.binary : Arithmetic := ⟨BinaryFormat.single.round, BinaryFormat.double.round⟩

end GamepadPool
