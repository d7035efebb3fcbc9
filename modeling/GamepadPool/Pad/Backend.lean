import GamepadPool.Pad.RawState
import GamepadPool.PathLookup
/-! # Access to physical pads
A backend lists the pads attached to the host and opens them. Its state changes with every call, and any call
may fail. -/

namespace GamepadPool

/-- Stable while the pad stays attached. -/
abbrev PadId := String

structure PadInfo where
  id : PadId
  name : String
deriving DecidableEq, Repr

/-- What the system can say about a failed call. -/
inductive SystemError where
  | file (e : FileError)
  | inputOutput
  | denied
  | busy
  | noDevice
  | notSuitable
deriving DecidableEq, Repr

def SystemError.message : SystemError → String
  | file e => e.message
  | inputOutput => "Input/output error (os error 5)"
  | denied => "Permission denied (os error 13)"
  | busy => "Device or resource busy (os error 16)"
  | noDevice => "No such device (os error 19)"
  | notSuitable => "Inappropriate ioctl for device (os error 25)"

inductive PadError where
  | system (e : SystemError)
  | disconnected (id : PadId)
  | rejected (request : String)
deriving DecidableEq, Repr

def PadError.message : PadError → String
  | system e => "IO error: " ++ e.message
  | disconnected id => "Device disconnected: " ++ id
  | rejected request => "Device rejected request: " ++ request

/-- `β` is the state of a backend, `η` names an open pad. -/
class PadBackend (β : Type) (η : outParam Type) where
  enumerate : β → Except PadError (List PadInfo) × β
  openPad : β → PadId → Except PadError η × β
  objectCounts : β → η → Except PadError ControlCounts × β
  /-- Switches the pad to the canonical layout. -/
  capture : β → η → Except PadError Unit × β
  /-- Takes exclusive access. -/
  claim : β → η → Except PadError Unit × β
  poll : β → η → Except PadError Unit × β
  read : β → η → Except PadError RawState × β
  /-- Gives exclusive access back. -/
  release : β → η → Except PadError Unit × β
  /-- Forgets an open pad. -/
  discard : β → η → β := fun b _ => b

/-! ## a backend whose enumeration can be made to fail -/

structure Obstructed (β : Type) where
  backend : β
  enumerationFails : Bool
deriving Repr

namespace Obstructed

variable {α β : Type}

/-- Applies a step of the backend inside. -/
def lift (o : Obstructed β) (step : β → α × β) : α × Obstructed β :=
  ((step o.backend).1, { o with backend := (step o.backend).2 })

instance {η : Type} [PadBackend β η] : PadBackend (Obstructed β) η where
  enumerate o := if o.enumerationFails then (.error (.rejected "enumerate"), o) else o.lift PadBackend.enumerate
  openPad o id := o.lift (PadBackend.openPad · id)
  objectCounts o h := o.lift (PadBackend.objectCounts · h)
  capture o h := o.lift (PadBackend.capture · h)
  claim o h := o.lift (PadBackend.claim · h)
  poll o h := o.lift (PadBackend.poll · h)
  read o h := o.lift (PadBackend.read · h)
  release o h := o.lift (PadBackend.release · h)
  discard o h := { o with backend := PadBackend.discard o.backend h }

end Obstructed
end GamepadPool
