import GamepadPool.Catalog.Object
import GamepadPool.Device
import GamepadPool.Text.Hex
/-! # Data formats
A caller describes its state buffer by a list of requests, each for one object at one offset. -/

namespace GamepadPool

/-- A request for one object. -/
structure ObjectRequest where
  /-- The usage to accept, any where there is none. -/
  usage : Option Usage
  offset : UInt32
  typeBits : UInt32
  /-- Only the aspect counts. -/
  flags : UInt32
deriving DecidableEq, Repr

structure BufferFormat where
  flags : UInt32
  dataSize : UInt32
  objects : List ObjectRequest
deriving DecidableEq, Repr, Inhabited

/-- What makes a format unacceptable. -/
inductive FormatError where
  | noObjects
  | sizeNotAligned (size : UInt32)
  | povNotAligned (offset : UInt32)
  | overrun (offset size : UInt32)
  | objectNotAligned (usage : Option Usage) (offset : UInt32)
  | requiredMissing (typeBits offset : UInt32)
deriving DecidableEq, Repr

/-- A usage, or the absence of one, as diagnostics show it. -/
def Usage.describe : Option Usage → String
  | some u => "Some(" ++ u.name ++ ")"
  | none => "None"

def FormatError.toDeviceError : FormatError → DeviceError
  | noObjects => .invalidParameter "data format has no objects"
  | sizeNotAligned size => .invalidParameter s!"data size {size.toNat} is not a multiple of 4"
  | povNotAligned offset => .invalidParameter s!"POV at offset {offset.toNat} is not 4-byte aligned"
  | overrun offset size =>
    .invalidParameter s!"object at offset {offset.toNat} overruns data size {size.toNat}"
  | objectNotAligned usage offset =>
    .invalidParameter s!"{Usage.describe usage} object at offset {offset.toNat} is not 4-byte aligned"
  | requiredMissing bits offset =>
    .objectNotFound s!"required object {Hex.word bits} at offset {offset.toNat}"

namespace ObjectRequest

def classBits (r : ObjectRequest) : UInt32 := r.typeBits &&& TypeBits.anyClass

/-- Need not be served. -/
def isOptional (r : ObjectRequest) : Bool := r.typeBits &&& TypeBits.optional != 0

/-- By its usage or, where it gives none, by its only class bit. -/
def isHat (r : ObjectRequest) : Bool :=
  match r.usage with
  | some u => u == .pov
  | none => r.classBits == TypeBits.pov

/-- Bytes the request may fill: one if it can only be served by a button, else four. -/
def width (r : ObjectRequest) : Nat :=
  if !r.isHat && r.classBits != 0 && r.classBits &&& ~~~TypeBits.button == 0 then 1 else 4

/-- Whether an object may serve the request. -/
def accepts (r : ObjectRequest) (o : DeviceObject) : Bool :=
  o.answersTo r.typeBits && o.hasAspect r.flags
    && match r.usage with
       | some u => u == o.usage
       | none => true

end ObjectRequest

namespace BufferFormat

/-- Six axes, two sliders, four hats and thirty-two buttons, all optional. -/
def joystick : BufferFormat where
  flags := 1
  dataSize := 80
  objects :=
    let axis (u : Usage) (offset : UInt32) : ObjectRequest :=
      ⟨some u, offset, TypeBits.axis ||| TypeBits.anyInstance ||| TypeBits.optional, ObjectFlags.position⟩
    let hat (i : Nat) : ObjectRequest :=
      ⟨some .pov, .ofNat (32 + 4 * i), TypeBits.pov ||| TypeBits.anyInstance ||| TypeBits.optional, 0⟩
    let button (i : Nat) : ObjectRequest :=
      ⟨none, .ofNat (48 + i), TypeBits.button ||| TypeBits.anyInstance ||| TypeBits.optional, 0⟩
    [axis .xAxis 0, axis .yAxis 4, axis .zAxis 8, axis .rxAxis 12, axis .ryAxis 16, axis .rzAxis 20,
     axis .slider 24, axis .slider 28]
      ++ (List.range 4).map hat ++ (List.range 32).map button

/-- Aligned where it has to be, and inside the buffer. -/
def checkRequest (size : UInt32) (r : ObjectRequest) : Except FormatError Unit :=
  if r.isHat && r.offset % 4 != 0 then .error (.povNotAligned r.offset)
  else if size.toNat < r.offset.toNat + r.width then .error (.overrun r.offset size)
  else .ok ()

def validate (f : BufferFormat) : Except FormatError Unit :=
  if f.objects.isEmpty then .error .noObjects
  else if f.dataSize % 4 != 0 then .error (.sizeNotAligned f.dataSize)
  else f.objects.forM (checkRequest f.dataSize)

end BufferFormat
end GamepadPool
