import GamepadPool.Command
import GamepadPool.Text.Quoted
/-! # Answers as diagnostics show them
One line, with the names of kinds and fields; numbers in decimal, texts in quotes. -/

namespace GamepadPool

namespace Describe

def word (n : UInt32) : String := toString n.toNat

def charset : Charset → String
  | .ansi => "Ansi"
  | .wide => "Wide"

def bytes (bs : List UInt8) : String := Quoted.list (bs.map fun b => toString b.toNat)

def deviceId : DeviceId → String
  | .keyboard => "SysKeyboard"
  | .mouse => "SysMouse"
  | .virtual index => Quoted.call "Virtual" (toString index.toNat)

def nameField (n : NameField) : String :=
  Quoted.record "EncodedName" [("charset", charset n.charset), ("bytes", bytes n.bytes)]

def deviceInfo (d : DeviceInfo) : String :=
  Quoted.record "DeviceInstance"
    [("instance", deviceId d.instanceId), ("product", deviceId d.productId), ("dev_type", word d.deviceType),
     ("instance_name", nameField d.instanceName), ("product_name", nameField d.productName)]

def capabilities (c : Capabilities) : String :=
  Quoted.record "DeviceCaps"
    [("flags", word c.flags), ("dev_type", word c.deviceType), ("axes", word c.axes),
     ("buttons", word c.buttons), ("povs", word c.povs)]

def objectInfo (o : ObjectInfo) : String :=
  Quoted.record "ObjectInstance"
    [("guid", o.usage.name), ("offset", word o.offset), ("type_bits", word o.typeBits),
     ("flags", word o.flags), ("name", nameField o.name)]

def assignment (a : BindingInfo) : String :=
  Quoted.record "AssignmentInfo"
    [("virtual_id", toString a.virtualId.toNat),
     ("physical_id", Quoted.call "PhysicalId" (Quoted.text a.physicalId)),
     ("name", Quoted.text a.name), ("profile", a.profile.name)]

def deviceError : DeviceError → String
  | .invalidParameter d => Quoted.call "InvalidParam" (Quoted.text d)
  | .objectNotFound d => Quoted.call "ObjectNotFound" (Quoted.text d)
  | .unsupported d => Quoted.call "Unsupported" (Quoted.text d)
  | .unimplemented d => Quoted.call "Unimplemented" (Quoted.text d)
  | .deviceNotRegistered d => Quoted.call "DeviceNotRegistered" (Quoted.text d)
  | .inputLost => "InputLost"

end Describe

open Describe in
def Answer.describe : Answer → String
  | pong => "Pong"
  | devices l => Quoted.call "Devices" (Quoted.list (l.map Describe.deviceInfo))
  | deviceCreated s => Quoted.record "DeviceCreated" [("session", toString s.toNat)]
  | deviceDestroyed => "DeviceDestroyed"
  | capabilities c => Quoted.call "Capabilities" (Describe.capabilities c)
  | deviceInfo i => Quoted.call "DeviceInfo" (Describe.deviceInfo i)
  | objects l => Quoted.call "Objects" (Quoted.list (l.map objectInfo))
  | ok => "Ok"
  | property v => Quoted.call "Property" v.describe
  | state bs => Quoted.call "State" (bytes bs)
  | assignments l => Quoted.call "Assignments" (Quoted.list (l.map assignment))
  | error e => Quoted.call "Error" (deviceError e)
  | failure m => Quoted.record "Failure" [("message", Quoted.text m)]

end GamepadPool
