import GamepadPool.Json
import GamepadPool.Number.Decimal
/-! # Values of number texts
An integer is a text without fraction and exponent. Any other text is read as a double: as many leading digits
as fit a 64-bit word, scaled by a rounded power of ten. A single is written with the fewest digits that
read back. -/

namespace GamepadPool

/-! ## reading -/

namespace NumberText

def digitValue (c : Char) : Nat := c.toNat - 48

def natOf (ds : List Char) : Nat := ds.foldl (fun n c => n * 10 + digitValue c) 0

/-- An integer's text; a negative zero is not one. -/
def int? (n : NumberText) : Option Int :=
  match n.fraction, n.exponent with
  | none, none =>
    let m := natOf n.whole
    if n.negative then (if m = 0 then none else some (-m)) else some m
  | _, _ => none

/-- Largest 64-bit word. -/
def wordLimit : Nat := 0xFFFFFFFFFFFFFFFF

/-- Takes digits into a significand while it fits a word; the digits left over come second. -/
def accumulate (m : Nat) : List Char → Nat × List Char
  | [] => (m, [])
  | d :: rest =>
    if wordLimit < m * 10 + digitValue d then (m, d :: rest) else accumulate (m * 10 + digitValue d) rest

/-- A power of ten as a double. -/
def power (e : Nat) : Number := BinaryFormat.double.round ((Nat.pow 10 e : Nat) : Rat)

/-- The quotient of finite doubles. -/
def divide (a b : Number) : Number :=
  match a, b with
  | .rat p, .rat q => BinaryFormat.double.round (p / q)
  | _, _ => .rat 0

/-- `f * 10 ^ e`, by way of powers of ten no larger than `10 ^ 308`. Nothing when it is too large. -/
def scale : Nat → Number → Int → Option Number
  | 0, _, _ => some (.rat 0)
  | fuel + 1, f, e =>
    if e.natAbs ≤ 308 then
      if 0 ≤ e then
        match Rounding.mul BinaryFormat.double.round f (power e.toNat) with
        | .infinite _ => none
        | x => some x
      else some (divide f (power e.natAbs))
    else if f.same .zero then some (.rat 0)
    else if 0 ≤ e then none
    else scale fuel (divide f (power 308)) (e + 308)

/-- Largest magnitude of an exponent that is told from larger ones. -/
def exponentLimit : Nat := 0x7FFFFFFF

/-- The written exponent, held at the limits of its range. -/
def exponentOf (start : Int) : Option (ExponentSign × List Char) → Int
  | none => start
  | some (.minus, ds) => max (-0x80000000) (start - natOf ds)
  | some (_, ds) => min exponentLimit (start + natOf ds)

def isHugeExponent : Option (ExponentSign × List Char) → Bool
  | none => false
  | some (_, ds) => decide (exponentLimit < natOf ds)

def isNegativeExponent : Option (ExponentSign × List Char) → Bool
  | some (.minus, _) => true
  | _ => false

/-- The magnitude of a text with a fraction, an exponent or too many digits. -/
def magnitude? (n : NumberText) : Option Number :=
  let (m, dropped) := accumulate 0 n.whole
  let fraction := n.fraction.getD []
  let (m, unread) := accumulate m fraction
  let start : Int := (dropped.length : Int) - ((fraction.length : Int) - unread.length)
  if isHugeExponent n.exponent then
    if m = 0 ∨ isNegativeExponent n.exponent then some (.rat 0) else none
  else scale 4 (BinaryFormat.double.round m) (exponentOf start n.exponent)

/-- The double a text stands for; nothing when it is too large. -/
def double? (n : NumberText) : Option Number :=
  match n.int? with
  | some i =>
    if -0x8000000000000000 ≤ i ∧ i ≤ wordLimit then some (BinaryFormat.double.round i)
    else (n.magnitude?).map fun x => if n.negative then x.neg else x
  | none => (n.magnitude?).map fun x => if n.negative then x.neg else x

/-- The single a text stands for: an integer is rounded once, any other number by way of the double. -/
def single? (n : NumberText) : Option Number :=
  match n.int? with
  | some i =>
    if -0x8000000000000000 ≤ i ∧ i ≤ wordLimit then some (BinaryFormat.single.round i)
    else (n.double?).map BinaryFormat.single.convert
  | none => (n.double?).map BinaryFormat.single.convert

/-! ## writing -/

/-- Positional from `10 ^ -6` up to `10 ^ 13`, with at least one digit after the point; else one digit, the
others as its fraction, and a signed exponent. -/
def ofDecimal (negative : Bool) (d : Decimal) : NumberText :=
  let ds := Decimal.digits d.significand
  let point : Int := ds.length + d.exponent
  if -6 < point ∧ point ≤ 13 then
    match Decimal.positional d with
    | (whole, fraction) => ⟨negative, whole, some (if fraction = [] then ['0'] else fraction), none⟩
  else
    let e := point - 1
    ⟨negative, ds.take 1, if ds.length = 1 then none else some (ds.drop 1),
      some (if e < 0 then .minus else .plus, Nat.toDigits 10 e.natAbs)⟩

/-- The text of a finite single. -/
def ofSingle? : Number → Option NumberText
  | .rat q =>
    if q = 0 then some ⟨false, ['0'], some ['0'], none⟩
    else some (ofDecimal (decide (q < 0)) (Decimal.shortest .single .even (if q < 0 then -q else q)))
  | .negZero => some ⟨true, ['0'], some ['0'], none⟩
  | _ => none

end NumberText
end GamepadPool
