import GamepadPool.Control
import GamepadPool.Text.Encoding
/-! # Names encoded for a caller
A caller reads names either in single bytes or in little-endian UTF-16; either way a name ends in one zero
unit and fits a fixed capacity. -/

namespace GamepadPool

/-- The width of a caller's characters. -/
inductive Charset where
  /-- One byte a character; what is not ASCII becomes a question mark. -/
  | ansi
  /-- UTF-16, little-endian. -/
  | wide
deriving DecidableEq, Repr, Inhabited

/-- A name as a caller receives it, its terminator included. -/
structure NameField where
  charset : Charset
  bytes : List UInt8
deriving DecidableEq, Repr

namespace Charset

def name : Charset → String
  | ansi => "ansi"
  | wide => "wide"

instance : Named Charset := ⟨[ansi, wide], name⟩

/-- Bytes in a code unit. -/
def unitBytes : Charset → Nat
  | ansi => 1
  | wide => 2

/-- The code units of every name field. -/
def nameCapacity : Nat := 260

def ansiByte (c : Char) : UInt8 := if c.toNat < 128 then UInt8.ofNat c.toNat else 63

def littleEndian (u : UInt16) : List UInt8 := [u.toUInt8, (u >>> 8).toUInt8]

/-- Units cut to a length, without the first half of a pair whose second half was cut off. -/
def cutUnits (limit : Nat) (units : List UInt16) : List UInt16 :=
  let kept := units.take limit
  match kept.getLast? with
  | some u => if Utf16.isHigh u then kept.dropLast else kept
  | none => kept

/-- The text cut to `capacity` units, the last of them the terminator. -/
def encode (c : Charset) (text : String) (capacity : Nat) : NameField :=
  let limit := capacity - 1
  match c with
  | ansi => ⟨c, (text.toList.map ansiByte).take limit ++ if 0 < capacity then [0] else []⟩
  | wide =>
    ⟨c, (cutUnits limit (Utf16.encode text.toList) ++ if 0 < capacity then [0] else []).flatMap littleEndian⟩

end Charset

namespace NameField

/-- Pairs of bytes as units; an odd last byte is dropped. -/
def units : List UInt8 → List UInt16
  | low :: high :: rest => (low.toUInt16 ||| (high.toUInt16 <<< 8)) :: units rest
  | _ => []

/-- Code units before the terminator. -/
def length (n : NameField) : Nat :=
  n.bytes.length / n.charset.unitBytes - if n.bytes.isEmpty then 0 else 1

def isEmpty (n : NameField) : Bool := n.length == 0

/-- The text up to the first zero unit. -/
def decode (n : NameField) : String :=
  String.ofList <|
    match n.charset with
    | .ansi => (n.bytes.takeWhile (· != 0)).map fun b => Char.ofNat b.toNat
    | .wide => Utf16.decode ((units n.bytes).takeWhile (· != 0))

end NameField
end GamepadPool
