import GamepadPool.Pad.Backend
import GamepadPool.Text.Encoding
/-! # Event nodes
A pad is a node that reports keys and absolute axes by code numbers. Axes are rescaled from the range the node
reports onto the canonical one, and the first hat becomes a direction. -/

namespace GamepadPool

namespace EventCode

def hatX : Nat := 16
def hatY : Nat := 17
def southKey : Nat := 0x130
def triggerKey : Nat := 0x120

/-- Where each canonical axis slot comes from: sticks, triggers, and the second stick's Y last. -/
def slotAxes : Vector Nat 6 := #v[0, 1, 3, 2, 5, 4]

/-- Candidates for each canonical button slot, the first that a node has being used. Drivers disagree only on
the trackpad. -/
def slotCandidates : Vector (List Nat) 14 :=
  #v[[0x134], [0x130], [0x131], [0x133], [0x136], [0x137], [0x138], [0x139], [0x13a], [0x13b], [0x13d],
     [0x13e], [0x13c], [0x14a, 0x121, 0x110]]

/-- The key read for each slot. -/
def slotKeys (supported : List Nat) : Vector (Option Nat) 14 :=
  slotCandidates.map fun candidates => candidates.find? supported.contains

/-- The range of each slot whose axis is there. -/
def slotRanges (present : Nat → Bool) (range : Nat → Option (Int32 × Int32)) :
    Vector (Option (Int32 × Int32)) 6 :=
  slotAxes.map fun code => if present code then range code else none

end EventCode

/-- A value held inside its range and spread over the canonical one; an empty range gives the middle. -/
def normalise (value min max : Int32) : Int32 :=
  if max.toInt ≤ min.toInt then .ofInt (rawMax / 2 : Nat)
  else
    let held := Max.max min.toInt (Min.min max.toInt value.toInt)
    .ofInt ((held - min.toInt) * rawMax / (max.toInt - min.toInt))

/-! ## nodes -/

/-- What can be made to go wrong with a node. -/
inductive NodeFault where
  | openNode
  /-- Opening for writing only; reading alone is enough. -/
  | write
  | query
  | axes
  | keys
  | grab
  | ungrab
deriving DecidableEq, Repr, Inhabited

namespace NodeFault

def name : NodeFault → String
  | openNode => "open"
  | write => "write"
  | query => "ioctl"
  | axes => "abs"
  | keys => "keys"
  | grab => "grab"
  | ungrab => "ungrab"

instance : Named NodeFault := ⟨[openNode, write, query, axes, keys, grab, ungrab], name⟩

end NodeFault

/-- An absolute axis of a node. -/
structure NodeAxis where
  code : Nat
  value : Int32
  min : Int32
  max : Int32
deriving DecidableEq, Repr

structure EventNode where
  /-- Tells a node from an earlier one of the same name. -/
  serial : Nat
  name : Option String
  keys : Option (List Nat)
  axes : List NodeAxis
  pressed : List Nat
  broken : List NodeFault
  /-- The open handle that has the node to itself. -/
  grabbedBy : Option Nat
deriving DecidableEq, Repr

namespace EventNode

def hasAxis (n : EventNode) (code : Nat) : Bool := n.axes.any (·.code == code)

def isPad (n : EventNode) : Bool :=
  match n.keys with
  | some ks => ks.contains EventCode.southKey || ks.contains EventCode.triggerKey
  | none => false

/-- Bytes of the buffer that a title is read into, its end mark included. -/
def titleBuffer : Nat := 256

/-- What fits into the buffer before the end mark. -/
def readTitle (s : String) : String :=
  match Cut.at? (titleBuffer - 1) s.toList with
  | some (front, _) => String.ofList front
  | none => s

def title (n : EventNode) : String :=
  match n.name with
  | some s => if s.isEmpty then "Unknown" else readTitle s
  | none => "Unknown"

def isBroken (n : EventNode) (f : NodeFault) : Bool := n.broken.contains f

/-- What opening the node runs into. -/
def openError? (n : EventNode) : Option SystemError :=
  if n.isBroken .openNode then some .denied
  else if n.isBroken .query then some .inputOutput
  else none

/-- Sets the values of axes that are there. -/
def move (n : EventNode) (values : List (Nat × Int32)) : EventNode :=
  { n with
    axes := n.axes.map fun a =>
      match values.reverse.find? (·.1 == a.code) with
      | some v => { a with value := v.2 }
      | none => a }

/-- The byte of a title that stands where the end mark should, the title having been cut off. Reading such a title
is a broken promise. -/
def cutByte? (n : EventNode) : Option UInt8 :=
  (n.name.bind fun s => s.toUTF8.toList[titleBuffer - 1]?).filter (· != 0)

end EventNode
end GamepadPool
