import GamepadPool.Catalog
import GamepadPool.Device
import GamepadPool.NameField
/-! # What a caller is told about devices and objects -/

namespace GamepadPool

/-- Which devices an enumeration is about. -/
inductive DeviceFamily where
  | all
  | pointer
  | keyboard
  | gameController
deriving DecidableEq, Repr, Inhabited

namespace DeviceFamily

def name : DeviceFamily → String
  | all => "All"
  | pointer => "Pointer"
  | keyboard => "Keyboard"
  | gameController => "GameController"

instance : Named DeviceFamily := ⟨[all, pointer, keyboard, gameController], name⟩

/-- Whether an enumeration of this class covers another. -/
def covers (c other : DeviceFamily) : Bool := c == all || c == other

end DeviceFamily

/-! ## device type codes: the kind, and its subtype in the second byte -/

namespace DeviceType

def code (kind subtype : UInt32) : UInt32 := kind ||| (subtype <<< 8)

def keyboard : UInt32 := code 0x13 4
def mouse : UInt32 := code 0x12 2
def gamepad : UInt32 := code 0x15 2
/-- Set in the capabilities of a device on the common bus. -/
def busDevice : UInt32 := 0x00010000

end DeviceType

/-- One enumerated device. -/
structure DeviceInfo where
  instanceId : DeviceId
  productId : DeviceId
  deviceType : UInt32
  instanceName : NameField
  productName : NameField
deriving DecidableEq, Repr

namespace DeviceInfo

def named (id : DeviceId) (deviceType : UInt32) (instanceName productName : String) (c : Charset) :
    DeviceInfo :=
  ⟨id, id, deviceType, c.encode instanceName Charset.nameCapacity, c.encode productName Charset.nameCapacity⟩

def keyboard (c : Charset) : DeviceInfo := named .keyboard DeviceType.keyboard "Keyboard" "Keyboard" c

def mouse (c : Charset) : DeviceInfo := named .mouse DeviceType.mouse "Mouse" "Mouse" c

/-- Players are counted from one. -/
def gamepad (index : Nat) (l : Layout) (c : Charset) : DeviceInfo :=
  named (.virtual (.ofNat index)) DeviceType.gamepad s!"VPad P{index + 1}" l.productName c

end DeviceInfo

/-- What a device can do. -/
structure Capabilities where
  flags : UInt32
  deviceType : UInt32
  axes : UInt32
  buttons : UInt32
  povs : UInt32
deriving DecidableEq, Repr

/-- One enumerated object. -/
structure ObjectInfo where
  usage : Usage
  offset : UInt32
  typeBits : UInt32
  flags : UInt32
  name : NameField
deriving DecidableEq, Repr

def ObjectInfo.ofObject (o : DeviceObject) (c : Charset) : ObjectInfo :=
  ⟨o.usage, o.nativeOffset, o.id, o.flags, c.encode o.name Charset.nameCapacity⟩

end GamepadPool
