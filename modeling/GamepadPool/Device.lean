import GamepadPool.Text.Hex
/-! # Devices
A device is named by its identity, or by the GUID that stands for it. A call on a device fails with one of six result
codes; five carry the cause. -/

namespace GamepadPool

/-! ## identities and their GUIDs

The system keyboard and mouse have GUIDs of their own; a virtual device puts its index into the last four bytes of a
GUID that all virtual devices share. -/

structure Guid where
  data1 : UInt32
  data2 : UInt16
  data3 : UInt16
  data4 : Vector UInt8 8
deriving DecidableEq, Repr

namespace Guid

/-- Braces around five groups of hexadecimal digits. -/
def text (g : Guid) : String :=
  String.ofList <|
    ['\x7b'] ++ Hex.padded 8 g.data1.toNat ++ ['-'] ++ Hex.padded 4 g.data2.toNat ++ ['-']
      ++ Hex.padded 4 g.data3.toNat ++ ['-'] ++ Hex.bytes (g.data4.toList.take 2) ++ ['-']
      ++ Hex.bytes (g.data4.toList.drop 2) ++ ['\x7d']

end Guid

inductive DeviceId where
  | keyboard
  | mouse
  | virtual (index : UInt64)
deriving DecidableEq, Repr, Inhabited

namespace DeviceId

/-- The low four bytes of an index, most significant first. -/
def indexBytes (index : UInt64) : Vector UInt8 4 :=
  #v[(index >>> 24).toUInt8, (index >>> 16).toUInt8, (index >>> 8).toUInt8, index.toUInt8]

def keyboardGuid : Guid :=
  ⟨0x6F1D2B61, 0xD5A0, 0x11CF, #v[0xBF, 0xC7, 0x44, 0x45, 0x53, 0x54, 0x00, 0x00]⟩

def mouseGuid : Guid :=
  ⟨0x6F1D2B60, 0xD5A0, 0x11CF, #v[0xBF, 0xC7, 0x44, 0x45, 0x53, 0x54, 0x00, 0x00]⟩

def virtualHead : Vector UInt8 4 := #v[0x9a, 0x7e, 0x8d, 0x10]

def toGuid : DeviceId → Guid
  | keyboard => keyboardGuid
  | mouse => mouseGuid
  | virtual index => ⟨0xdead571c, 0x4efc, 0x9fa7, virtualHead ++ indexBytes index⟩

/-- The index written in four bytes, most significant first. -/
def indexOf (b0 b1 b2 b3 : UInt8) : UInt64 :=
  (b0.toUInt64 <<< 24) ||| (b1.toUInt64 <<< 16) ||| (b2.toUInt64 <<< 8) ||| b3.toUInt64

def ofGuid? (g : Guid) : Option DeviceId :=
  if g = keyboardGuid then some keyboard
  else if g = mouseGuid then some mouse
  else if g.data1 = 0xdead571c ∧ g.data2 = 0x4efc ∧ g.data3 = 0x9fa7 ∧ g.data4.take 4 = virtualHead then
    some (virtual (indexOf g.data4[4] g.data4[5] g.data4[6] g.data4[7]))
  else none

end DeviceId

/-! ## failures -/

/-- The way a device call failed, with a text naming the cause. -/
inductive DeviceError where
  | invalidParameter (detail : String)
  | objectNotFound (detail : String)
  | unsupported (detail : String)
  | unimplemented (detail : String)
  | deviceNotRegistered (detail : String)
  | inputLost
deriving DecidableEq, Repr

def DeviceError.message : DeviceError → String
  | invalidParameter d => "Invalid parameter: " ++ d
  | objectNotFound d => "Object not found: " ++ d
  | unsupported d => "Unsupported: " ++ d
  | unimplemented d => "Unimplemented: " ++ d
  | deviceNotRegistered d => "Device not registered: " ++ d
  | inputLost => "Input lost"

end GamepadPool
