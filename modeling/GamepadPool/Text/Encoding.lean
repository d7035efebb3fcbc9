/-! # Encoded texts
A text is encoded in units of 16 bits or in bytes. -/

/-! ## UTF-16

A character outside the basic plane takes a high surrogate and a low one. -/

namespace GamepadPool.Utf16

def isHigh (u : UInt16) : Bool := 0xD800 ≤ u && u < 0xDC00
def isLow (u : UInt16) : Bool := 0xDC00 ≤ u && u < 0xE000

/-- What stands for a unit that no character can have. -/
def replacement : Char := Char.ofNat 0xFFFD

def encodeChar (c : Char) : List UInt16 :=
  let n := c.toNat
  if n < 0x10000 then [UInt16.ofNat n]
  else
    let m := n - 0x10000
    [UInt16.ofNat (0xD800 + m / 0x400), UInt16.ofNat (0xDC00 + m % 0x400)]

def encode (text : List Char) : List UInt16 := text.flatMap encodeChar

/-- The character of a surrogate pair. -/
def pair (high low : UInt16) : Char :=
  Char.ofNat (0x10000 + (high.toNat - 0xD800) * 0x400 + (low.toNat - 0xDC00))

/-- The character of a unit that is half of no pair. -/
def single (u : UInt16) : Char := if isHigh u || isLow u then replacement else Char.ofNat u.toNat

/-- Reads units; each unpaired surrogate becomes a replacement character. -/
def decode : List UInt16 → List Char
  | [] => []
  | [u] => [single u]
  | u :: v :: rest => if isHigh u && isLow v then pair u v :: decode rest else single u :: decode (v :: rest)

end GamepadPool.Utf16

/-! ## cuts at bytes

Positions count the bytes of the encoded text. -/

namespace GamepadPool.Cut

/-- Bytes of a text. -/
def size : List Char → Nat
  | [] => 0
  | c :: s => c.utf8Size + size s

/-- The two parts around a position. There are none if it lies inside a character or behind the end. -/
def at? (n : Nat) : List Char → Option (List Char × List Char)
  | [] => if n = 0 then some ([], []) else none
  | c :: s =>
    if n = 0 then some ([], c :: s)
    else if c.utf8Size ≤ n then (at? (n - c.utf8Size) s).map fun r => (c :: r.1, r.2)
    else none

/-- What stands from one position up to another. -/
def between? (s : List Char) (first last : Nat) : Option (List Char) :=
  (at? last s).bind fun r => (at? first r.1).map (·.2)

end GamepadPool.Cut
