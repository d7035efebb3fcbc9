import GamepadPool.Number.Binary
/-! # Decimals and binary values
A decimal is rounded once, from its exact value. A value is written with the fewest digits that round back to it; of
several such decimals the nearest is taken, and of two equally near the one the caller's rule names. -/

namespace GamepadPool

/-- `significand * 10 ^ exponent`. -/
structure Decimal where
  significand : Nat
  exponent : Int
deriving DecidableEq, Repr

/-- Which of two equally near neighbours is taken. -/
inductive TieRule where
  | even
  | up
deriving DecidableEq, Repr

namespace Decimal

/-- A power of ten with any exponent. -/
def tenPow (e : Int) : Rat :=
  if 0 ≤ e then ((Nat.pow 10 e.toNat : Nat) : Rat) else mkRat 1 (Nat.pow 10 (-e).toNat)

def value (d : Decimal) : Rat := d.significand * tenPow d.exponent

/-- Decimal digits of a natural, most significant first. -/
def digits (n : Nat) : List Char := Nat.toDigits 10 n

/-- The largest `e` with `10 ^ e ≤ q`, for a positive `q`. -/
def magnitude (q : Rat) : Int :=
  let e : Int := ((digits q.num.natAbs).length : Int) - (digits q.den).length
  if tenPow e ≤ q then e else e - 1

/-- Trailing zeros moved into the exponent; `fuel` bounds their number. -/
def trim : Nat → Decimal → Decimal
  | 0, d => d
  | fuel + 1, d =>
    if d.significand ≠ 0 ∧ d.significand % 10 = 0 then trim fuel ⟨d.significand / 10, d.exponent + 1⟩ else d

/-- The decimal with `count` digits nearest to `q` that rounds to it, if any does. -/
def withDigits? (f : BinaryFormat) (tie : TieRule) (q : Rat) (count : Nat) : Option Decimal :=
  let e := magnitude q + 1 - count
  let low := (q / tenPow e).floor.toNat
  let below : Decimal := ⟨low, e⟩
  let above : Decimal := ⟨low + 1, e⟩
  let fits (d : Decimal) := f.round d.value = .rat q
  let upward :=
    let down := q - below.value
    let up := above.value - q
    if up = down then (match tie with | .even => low % 2 == 1 | .up => true) else decide (up < down)
  if fits below then
    if fits above && upward then some above else some below
  else if fits above then some above
  else none

/-- Tries ever more digits, from `count` on. -/
def search (f : BinaryFormat) (tie : TieRule) (q : Rat) : Nat → Nat → Option Decimal
  | 0, _ => none
  | fuel + 1, count =>
    match withDigits? f tie q count with
    | some d => some d
    | none => search f tie q fuel (count + 1)

/-- Every digit of a fraction whose denominator is a power of two. -/
def expansion (q : Rat) : Decimal :=
  let t := Nat.log2 q.den
  ⟨q.num.natAbs * Nat.pow 5 t, -t⟩

/-- Shortest text of a positive value of the format. -/
def shortest (f : BinaryFormat) (tie : TieRule) (q : Rat) : Decimal :=
  let d := (search f tie q (f.precision + 1) 1).getD (expansion q)
  trim (digits d.significand).length d

/-- Positional text: whole part, and the fraction if there is one. -/
def positional (d : Decimal) : List Char × List Char :=
  let ds := digits d.significand
  if 0 ≤ d.exponent then (ds ++ List.replicate d.exponent.toNat '0', [])
  else
    let places := (-d.exponent).toNat
    if places < ds.length then (ds.take (ds.length - places), ds.drop (ds.length - places))
    else (['0'], List.replicate (places - ds.length) '0' ++ ds)

end Decimal

namespace BinaryFormat

/-- The value of the format nearest to `significand * 10 ^ exponent`. Exponents far outside the format's range are
settled without computing the power. -/
def ofDecimal (f : BinaryFormat) (significand : Nat) (exponent : Int) : Number :=
  if significand = 0 then .rat 0
  else
    let top := (Decimal.digits significand).length + exponent
    if top < -400 then .rat 0
    else if 400 < top then .infinite false
    else f.round (Decimal.value ⟨significand, exponent⟩)

end BinaryFormat
end GamepadPool
