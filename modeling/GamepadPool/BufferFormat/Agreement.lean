import GamepadPool.BufferFormat
import GamepadPool.Catalog
/-! # Negotiating a data format
Requests are served in order, each by the first object that may serve it and is not yet taken. A format that
fails at any request changes nothing. -/

namespace GamepadPool

/-- An object's value goes to an offset. -/
structure Mapping where
  object : Nat
  offset : UInt32
deriving DecidableEq, Repr

/-- A constant goes to an offset that no object serves. -/
structure Fixup where
  offset : UInt32
  value : UInt32
deriving DecidableEq, Repr

structure Agreement where
  dataSize : UInt32
  mappings : List Mapping
  fixups : List Fixup
deriving DecidableEq, Repr

namespace Agreement

/-- The first object mapped to an offset. -/
def objectAt? (mappings : List Mapping) (offset : UInt32) : Option Nat :=
  (mappings.find? (·.offset == offset)).map (·.object)

/-- Objects in use, in request order. -/
def taken (n : Agreement) : List Nat := n.mappings.map (·.object)

/-- Axes and hats are four bytes wide and must be aligned. -/
def needsAlignment (o : DeviceObject) : Bool := o.kind.isAxis || o.kind == .pov

/-- The first object not yet taken that may serve the request. -/
def pick? (objects : List DeviceObject) (taken : List Nat) (r : ObjectRequest) : Option Nat :=
  (List.range objects.length).find? fun i =>
    !taken.contains i && (objects[i]?.map r.accepts).getD false

def serve (objects : List DeviceObject) (n : Agreement) (r : ObjectRequest) :
    Except FormatError Agreement :=
  match pick? objects n.taken r with
  | some i =>
    if (objects[i]?.map needsAlignment).getD false && r.offset % 4 != 0 then
      .error (.objectNotAligned r.usage r.offset)
    else .ok { n with mappings := n.mappings ++ [⟨i, r.offset⟩] }
  | none =>
    if r.isOptional then
      .ok (if r.isHat then { n with fixups := n.fixups ++ [⟨r.offset, Hat.centred⟩] } else n)
    else .error (.requiredMissing r.typeBits r.offset)

def serveAll (objects : List DeviceObject) (n : Agreement) :
    List ObjectRequest → Except FormatError Agreement
  | [] => .ok n
  | r :: rest =>
    match serve objects n r with
    | .ok n => serveAll objects n rest
    | .error e => .error e

end Agreement

/-- The format in effect and the catalog with exactly its objects marked. -/
def Catalog.negotiate (c : Catalog) (f : BufferFormat) : Except FormatError (Agreement × Catalog) :=
  match f.validate with
  | .error e => .error e
  | .ok () =>
    match Agreement.serveAll c.objects ⟨f.dataSize, [], []⟩ f.objects with
    | .ok n => .ok (n, c.mark n.taken)
    | .error e => .error e

end GamepadPool
