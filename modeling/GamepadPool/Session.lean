import GamepadPool.Listing
import GamepadPool.Properties
import GamepadPool.SnapshotSource
import GamepadPool.StateBuffer
import GamepadPool.StickFilter
/-! # Sessions
A session is one caller's view of a virtual device. It owns its catalog and its data format, so callers of the
same device never see each other's settings; the source of snapshots is all they share. -/

namespace GamepadPool

structure Session where
  /-- The virtual device. -/
  index : Nat
  charset : Charset
  filter : StickFilter
  catalog : Catalog
  format : Option Agreement
  isAcquired : Bool
deriving DecidableEq, Repr

/-- Why the state cannot be read. -/
inductive StateError where
  | noFormat
  | wrongSize (size : Nat) (needed : UInt32)
  /-- The format and the buffer disagree. -/
  | render (e : RenderError)
deriving DecidableEq, Repr

def StateError.toDeviceError : StateError → DeviceError
  | noFormat => .invalidParameter "no data format set"
  | wrongSize size needed => .invalidParameter s!"state buffer is {size} bytes, format needs {needed.toNat}"
  | render e => .invalidParameter e.message

namespace Session

def ofDevice (index : Nat) (l : Layout) (c : Charset) (f : StickFilter) : Session :=
  ⟨index, c, f, .ofLayout l, none, false⟩

def mappings (s : Session) : List Mapping := (s.format.map (·.mappings)).getD []

def id (s : Session) : DeviceId := .virtual (.ofNat s.index)

/-! ## information -/

/-- Attached and emulated. -/
def capabilities (s : Session) : Capabilities :=
  let n := s.catalog.counts
  ⟨5, DeviceType.gamepad ||| DeviceType.busDevice, n.axes, n.buttons, n.povs⟩

def info (s : Session) : DeviceInfo := .gamepad s.index s.catalog.layout s.charset

/-- A filter that names a collection selects nothing. -/
def objects (s : Session) (filter : UInt32) : List ObjectInfo :=
  if TypeBits.collectionOf filter != 0 then []
  else (s.catalog.enumerate filter).map (ObjectInfo.ofObject · s.charset)

/-- Whether an object of the class is mapped to the offset. -/
def hasMapping (s : Session) (offset : UInt32) (cls : ObjectKind) : Bool :=
  s.mappings.any fun m => m.offset == offset && (s.catalog.objects[m.object]?.map (·.kind == cls)).getD false

/-! ## settings -/

/-- A refused format leaves the one before in effect. -/
def setFormat (s : Session) (f : BufferFormat) : Except FormatError Session :=
  match s.catalog.negotiate f with
  | .ok (n, c) => .ok { s with catalog := c, format := some n }
  | .error e => .error e

def acquire (s : Session) : Session := { s with isAcquired := true }

def unacquire (s : Session) : Session := { s with isAcquired := false }

def getProperty (s : Session) (p : Property) (t : PropertyAddress) : Except PropertyError PropertyValue :=
  s.catalog.getProperty s.mappings p t

def setProperty (s : Session) (p : Property) (t : PropertyAddress) (v : PropertyValue) :
    Except PropertyError Session :=
  match s.catalog.setProperty s.mappings p t v with
  | .ok c => .ok { s with catalog := c }
  | .error e => .error e

/-! ## state -/

/-- The format in effect, if it needs exactly `size` bytes. -/
def agreementFor (s : Session) (size : Nat) : Except StateError Agreement :=
  match s.format with
  | none => .error .noFormat
  | some n => if size ≠ n.dataSize.toNat then .error (.wrongSize size n.dataSize) else .ok n

/-- The state a snapshot gives in a buffer. -/
def renderInto [Arithmetic] (s : Session) (inputs : Snapshot) (buffer : List UInt8) :
    Except StateError (List UInt8) :=
  match s.agreementFor buffer.length with
  | .error e => .error e
  | .ok n =>
    match render s.catalog n.mappings n.fixups (s.filter.apply inputs) buffer with
    | .ok bytes => .ok bytes
    | .error e => .error (.render e)

variable {σ : Type} [SnapshotSource σ]

/-- Fetches fresh state; fails when the device lost its input since it was last polled. -/
def poll (s : Session) (source : σ) : Except DeviceError Unit × σ :=
  match SnapshotSource.takeLoss (SnapshotSource.refreshOne source s.index) s.index with
  | (true, source) => (.error .inputLost, source)
  | (false, source) => (.ok (), source)

/-- Renders the latest snapshot into a buffer, which keeps its bytes on failure. -/
def fill [Arithmetic] (s : Session) (source : σ) (buffer : List UInt8) :
    Except StateError Unit × List UInt8 :=
  match s.renderInto (SnapshotSource.snapshot source s.index) buffer with
  | .ok bytes => (.ok (), bytes)
  | .error e => (.error e, buffer)

/-- Like `fill`, into a buffer made only once `size` is known to be right. -/
def read [Arithmetic] (s : Session) (source : σ) (size : Nat) : Except StateError (List UInt8) :=
  match s.agreementFor size with
  | .error e => .error e
  | .ok _ => s.renderInto (SnapshotSource.snapshot source s.index) (List.replicate size 0)

end Session

/-! ## the root of the interface -/

/-- What every session of one pool has in common. -/
structure Interface where
  charset : Charset
  layout : Layout
  filter : StickFilter
deriving DecidableEq, Repr

namespace Interface

/-- Set in an enumeration that asks for devices with force feedback; there are none. -/
def forceFeedback : UInt32 := 0x100

/-- The devices of a class: the keyboard, the mouse, then the virtual devices. -/
def devices (i : Interface) (count : Nat) (cls : DeviceFamily) (flags : UInt32) : List DeviceInfo :=
  if flags &&& forceFeedback != 0 then []
  else
    (if cls.covers .keyboard then [.keyboard i.charset] else [])
      ++ (if cls.covers .pointer then [.mouse i.charset] else [])
      ++ (if cls.covers .gameController then
            (List.range count).map fun n => .gamepad n i.layout i.charset
          else [])

/-- A fresh session with a catalog of its own. -/
def create (i : Interface) (count : Nat) : DeviceId → Except DeviceError Session
  | .keyboard => .error (.unsupported "SysKeyboard is passed through to the system")
  | .mouse => .error (.unsupported "SysMouse is passed through to the system")
  | .virtual index =>
    if index.toNat < count then .ok (.ofDevice index.toNat i.layout i.charset i.filter)
    else .error (.deviceNotRegistered s!"virtual device {index.toNat}")

end Interface
end GamepadPool
