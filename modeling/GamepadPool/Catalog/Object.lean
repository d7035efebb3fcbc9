import GamepadPool.Control
import GamepadPool.TypeBits
/-! # Objects of a device
An object is one thing a device exposes: an axis, a button, a hat, or a collection without data. -/

namespace GamepadPool

/-- What an object is used for. -/
inductive Usage where
  | xAxis
  | yAxis
  | zAxis
  | rxAxis
  | ryAxis
  | rzAxis
  | slider
  | button
  | key
  | pov
  | unknown
deriving DecidableEq, Repr, Inhabited

namespace Usage

def all : List Usage :=
  [xAxis, yAxis, zAxis, rxAxis, ryAxis, rzAxis, slider, button, key, pov, unknown]

def name : Usage → String
  | xAxis => "XAxis"
  | yAxis => "YAxis"
  | zAxis => "ZAxis"
  | rxAxis => "RxAxis"
  | ryAxis => "RyAxis"
  | rzAxis => "RzAxis"
  | slider => "Slider"
  | button => "Button"
  | key => "Key"
  | pov => "Pov"
  | unknown => "Unknown"

instance : Named Usage := ⟨all, name⟩

end Usage

inductive ObjectKind where
  | absoluteAxis
  | relativeAxis
  | pushButton
  | toggleButton
  | pov
  | collection
deriving DecidableEq, Repr, Inhabited

namespace ObjectKind

def all : List ObjectKind := [absoluteAxis, relativeAxis, pushButton, toggleButton, pov, collection]

def name : ObjectKind → String
  | absoluteAxis => "AbsAxis"
  | relativeAxis => "RelAxis"
  | pushButton => "PushButton"
  | toggleButton => "ToggleButton"
  | pov => "Pov"
  | collection => "Collection"

instance : Named ObjectKind := ⟨all, name⟩

def typeBits : ObjectKind → UInt32
  | absoluteAxis => TypeBits.absoluteAxis
  | relativeAxis => TypeBits.relativeAxis
  | pushButton => TypeBits.pushButton
  | toggleButton => TypeBits.toggleButton
  | pov => TypeBits.pov
  | collection => TypeBits.collection ||| TypeBits.noData

def isAxis : ObjectKind → Bool
  | absoluteAxis | relativeAxis => true
  | _ => false

def isButton : ObjectKind → Bool
  | pushButton | toggleButton => true
  | _ => false

/-- Bytes of an object's value in a state buffer. -/
def width : ObjectKind → Nat
  | absoluteAxis | relativeAxis | pov => 4
  | pushButton | toggleButton => 1
  | collection => 0

end ObjectKind

/-- Deadzone and saturation count in this fraction of the half-range. -/
def fullScale : Nat := 10000

structure DeviceObject where
  name : String
  usage : Usage
  kind : ObjectKind
  /-- Counts the objects of one class. -/
  number : UInt16
  flags : UInt32
  /-- Where the device's own report holds the object. -/
  nativeOffset : UInt32
  control : Option Control
  rangeMin : Int32
  rangeMax : Int32
  /-- In ten-thousandths of the half-range. -/
  deadzone : Nat
  /-- In ten-thousandths of the half-range. -/
  saturation : Nat
  /-- Whether the data format in effect uses the object. -/
  isMatched : Bool
deriving DecidableEq, Repr

namespace DeviceObject

/-- An object with the properties every object starts with. -/
def ofControl (name : String) (usage : Usage) (cls : ObjectKind) (number : UInt16) (nativeOffset : UInt32)
    (control : Option Control) : DeviceObject where
  name := name
  usage := usage
  kind := cls
  number := number
  flags := if cls.isAxis then ObjectFlags.position else 0
  nativeOffset := nativeOffset
  control := control
  rangeMin := 0
  rangeMax := 65535
  deadzone := 0
  saturation := fullScale
  isMatched := false

def typeBits (o : DeviceObject) : UInt32 := o.kind.typeBits

/-- The identifier an enumeration reports. -/
def id (o : DeviceObject) : UInt32 := o.typeBits ||| TypeBits.ofInstance o.number

def aspect (o : DeviceObject) : UInt32 := o.flags &&& ObjectFlags.anyAspect

/-- A request names the object: a class in common, the instance equal or any, and no other attribute. -/
def answersTo (o : DeviceObject) (request : UInt32) : Bool :=
  let bits := request &&& ~~~TypeBits.optional
  bits &&& TypeBits.anyClass &&& o.typeBits != 0
    && (bits &&& TypeBits.anyInstance == TypeBits.anyInstance || TypeBits.instanceOf bits == o.number)
    && bits &&& ~~~(TypeBits.anyClass ||| TypeBits.anyInstance) == 0

/-- A request that names an aspect takes only objects of that aspect. -/
def hasAspect (o : DeviceObject) (requestFlags : UInt32) : Bool :=
  let wanted := requestFlags &&& ObjectFlags.anyAspect
  wanted == 0 || wanted == o.aspect

/-- Without a class bit a filter takes everything, else what has a class bit in common with it. -/
def passes (o : DeviceObject) (filter : UInt32) : Bool :=
  let wanted := filter &&& TypeBits.anyClass
  wanted == 0 || wanted &&& o.typeBits != 0

end DeviceObject
end GamepadPool
