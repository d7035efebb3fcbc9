import GamepadPool.BufferFormat
import GamepadPool.Listing
import GamepadPool.Pool
import GamepadPool.Properties
/-! # Commands and answers of the control socket
A message carries a command under an identifier of the sender's choice, and its answer returns under the same
one. Sessions are numbered by the server. -/

namespace GamepadPool

/-- What can be asked of a session. -/
inductive SessionCommand where
  | capabilities
  | info
  | listObjects (filter : UInt32)
  | setFormat (format : BufferFormat)
  | setCooperation (flags : UInt32)
  | acquire
  | unacquire
  | getProperty (property : Property) (target : PropertyAddress)
  | setProperty (property : Property) (target : PropertyAddress) (value : PropertyValue)
  | poll
  | readState (size : UInt64)
deriving DecidableEq, Repr

inductive Command where
  | ping
  | listDevices (cls : DeviceFamily) (flags : UInt32)
  | openSession (id : DeviceId)
  | closeSession (session : UInt64)
  | onSession (session : UInt64) (c : SessionCommand)
  /-- Only where inputs come from clients. -/
  | submitFrame (index : UInt64) (inputs : Snapshot)
  /-- Only where inputs come from pads. -/
  | listAssignments
deriving DecidableEq, Repr, Inhabited

inductive Answer where
  | pong
  | devices (l : List DeviceInfo)
  | deviceCreated (session : UInt64)
  | deviceDestroyed
  | capabilities (c : Capabilities)
  | deviceInfo (i : DeviceInfo)
  | objects (l : List ObjectInfo)
  | ok
  | property (v : PropertyValue)
  | state (bytes : List UInt8)
  | assignments (l : List BindingInfo)
  /-- The device call failed. -/
  | error (e : DeviceError)
  /-- The request could not be served at all. -/
  | failure (message : String)
deriving DecidableEq, Repr

structure Message where
  id : String
  command : Command
deriving DecidableEq, Repr

structure Reply where
  id : String
  answer : Answer
deriving DecidableEq, Repr

end GamepadPool
