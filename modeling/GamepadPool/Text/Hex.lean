/-! # Hexadecimal text of words
Written in lower case with a fixed number of digits, most significant first. -/

namespace GamepadPool.Hex

def digit (n : Nat) : Char :=
  if n < 10 then Char.ofNat (48 + n) else Char.ofNat (87 + n)

/-- The value of a digit, written in either case. -/
def value? (c : Char) : Option Nat :=
  if '0' ≤ c ∧ c ≤ '9' then some (c.toNat - 48)
  else if 'a' ≤ c ∧ c ≤ 'f' then some (c.toNat - 87)
  else if 'A' ≤ c ∧ c ≤ 'F' then some (c.toNat - 55)
  else none

/-- The low `width` digits of `n`. -/
def padded : Nat → Nat → List Char
  | 0, _ => []
  | width + 1, n => padded width (n / 16) ++ [digit (n % 16)]

/-- Two digits for each byte. -/
def bytes (bs : List UInt8) : List Char := bs.flatMap fun b => padded 2 b.toNat

/-- A word with eight digits and their usual mark. -/
def word (bits : UInt32) : String := "0x" ++ String.ofList (padded 8 bits.toNat)

@[simp] theorem length_padded (width n : Nat) : (padded width n).length = width := by
  induction width generalizing n with
  | zero => rfl
  | succ w ih => simp [padded, ih]

end GamepadPool.Hex
