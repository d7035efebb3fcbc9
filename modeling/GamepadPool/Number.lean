/-! # Numbers on an axis
A value is a rational, the negative zero, an infinity, or no number at all. Arithmetic is exact and is
rounded once at the end, so the same formulas serve binary formats and exact rationals. -/

namespace GamepadPool

/-- What an axis can carry. -/
inductive Number where
  | rat (q : Rat)
  /-- Equal to zero in every comparison and operation; only its text tells it apart. -/
  | negZero
  | infinite (negative : Bool)
  | nan
deriving DecidableEq, Repr

namespace Number

instance : Inhabited Number := ⟨.rat 0⟩

def zero : Number := .rat 0
def half : Number := .rat (1 / 2)
def one : Number := .rat 1

/-- The integer itself, before any rounding. -/
def ofInt (n : Int) : Number := .rat n

/-- Sorts by infinity first, then by value. -/
def key? : Number → Option (Int × Rat)
  | rat q => some (0, q)
  | negZero => some (0, 0)
  | infinite true => some (-1, 0)
  | infinite false => some (1, 0)
  | nan => none

/-- False when either side is no number. -/
def le (a b : Number) : Bool :=
  match a.key?, b.key? with
  | some (i, p), some (j, q) => decide (i < j ∨ (i = j ∧ p ≤ q))
  | _, _ => false

/-- False when either side is no number. -/
def lt (a b : Number) : Bool := a.le b && !b.le a

/-- Equality of values: the zeros agree, and what is no number differs from itself. -/
def same (a b : Number) : Bool := a.le b && b.le a

def isNaN : Number → Bool
  | nan => true
  | _ => false

def neg : Number → Number
  | rat q => if q = 0 then negZero else rat (-q)
  | negZero => rat 0
  | infinite n => infinite (!n)
  | nan => nan

def abs : Number → Number
  | rat q => rat (if q < 0 then -q else q)
  | negZero => rat 0
  | infinite _ => infinite false
  | nan => nan

/-- `low` and `high` are the bounds; what is no number stays as it is. -/
def clamp (low high x : Number) : Number :=
  if x.lt low then low else if high.lt x then high else x

end Number

/-! ## Arithmetic -/

/-- How an exact result becomes a number of a format. -/
abbrev Rounding := Rat → Number

namespace Rounding

/-- Nothing is lost. -/
def exact : Rounding := .rat

variable (r : Rounding)

def add : Number → Number → Number
  | .nan, _ | _, .nan => .nan
  | .infinite s, .infinite t => if s = t then .infinite s else .nan
  | .infinite s, _ => .infinite s
  | _, .infinite t => .infinite t
  | .rat p, .rat q => r (p + q)
  | .rat p, .negZero => r p
  | .negZero, .rat q => r q
  | .negZero, .negZero => .negZero

def sub (a b : Number) : Number := r.add a b.neg

def mul (a b : Number) : Number :=
  match a, b with
  | .nan, _ | _, .nan => .nan
  | .infinite _, .negZero | .negZero, .infinite _ => .nan
  | .infinite s, .infinite t => .infinite (s != t)
  | .infinite s, .rat q => if q = 0 then .nan else .infinite (s != decide (q < 0))
  | .rat p, .infinite t => if p = 0 then .nan else .infinite (decide (p < 0) != t)
  | .rat p, .rat q => r (p * q)
  | .rat _, .negZero | .negZero, .rat _ | .negZero, .negZero => .rat 0

/-- An integer, rounded, over a divisor that needs no rounding. -/
def ratio (n : Int) (d : Nat) : Number :=
  match r n with
  | .rat p => r (p / d)
  | x => x

end Rounding

/-- The two places where arithmetic rounds: axis values, and the finer values of the rendered state. -/
class Arithmetic where
  axis : Rounding
  state : Rounding

/-- No step rounds. -/
@[reducible] def Arithmetic.exact : Arithmetic := ⟨.exact, .exact⟩

end GamepadPool
