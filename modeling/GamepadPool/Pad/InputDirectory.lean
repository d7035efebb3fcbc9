import GamepadPool.FileTree
import GamepadPool.Pad.EventNode
/-! # The input directory
Pads are listed from the event nodes in one directory and opened by path. An open handle stays with the node it
was opened on, also when another node takes the name. -/

namespace GamepadPool

/-- An open node: what was learnt about it when it was opened and captured. -/
structure NodeHandle where
  path : PadId
  /-- The name that the path led to. -/
  name : String
  /-- The node that was opened; another under the same name does not count. -/
  node : EventNode
  ranges : Vector (Option (Int32 × Int32)) 6
  buttons : Vector (Option Nat) 14
  isGrabbed : Bool
deriving DecidableEq, Repr

/-- A title without its end mark was read. -/
structure TitleFault where
  byte : UInt8
deriving DecidableEq, Repr

def TitleFault.message (f : TitleFault) : String :=
  s!"assertion `left == right` failed\n  left: {f.byte.toNat}\n right: 0"

/-- The input directory, and the handles open on its nodes. -/
structure InputDirectory where
  /-- By name, in the order of names. -/
  nodes : List (String × EventNode)
  handles : List (Nat × NodeHandle)
  nextSerial : Nat
  nextHandle : Nat
deriving DecidableEq, Repr

namespace InputDirectory

def empty : InputDirectory := ⟨[], [], 0, 0⟩

def directory : String := "/dev/input/"

def pathOf (name : String) : PadId := directory ++ name

def insert (name : String) (node : EventNode) : List (String × EventNode) → List (String × EventNode)
  | [] => [(name, node)]
  | p :: rest =>
    if name < p.1 then (name, node) :: p :: rest
    else if name = p.1 then (name, node) :: rest
    else p :: insert name node rest

/-- Changes a node that is there. -/
def modify (d : InputDirectory) (name : String) (f : EventNode → EventNode) : InputDirectory :=
  { d with nodes := d.nodes.map fun p => if p.1 = name then (p.1, f p.2) else p }

/-! ## the hand that plugs and unplugs -/

/-- A new node, also where there was one. -/
def plug (d : InputDirectory) (name : String) (title : Option String) (keys : Option (List Nat))
    (axes : List NodeAxis) : InputDirectory :=
  { d with
    nodes := insert name ⟨d.nextSerial, title, keys, axes, [], [], none⟩ d.nodes
    nextSerial := d.nextSerial + 1 }

def unplug (d : InputDirectory) (name : String) : InputDirectory :=
  { d with nodes := d.nodes.filter (·.1 != name) }

def press (d : InputDirectory) (name : String) (keys : List Nat) : InputDirectory :=
  d.modify name ({ · with pressed := keys })

def move (d : InputDirectory) (name : String) (values : List (Nat × Int32)) : InputDirectory :=
  d.modify name (·.move values)

def breakNode (d : InputDirectory) (name : String) (f : NodeFault) : InputDirectory :=
  d.modify name fun n => { n with broken := f :: n.broken }

def mend (d : InputDirectory) (name : String) (f : NodeFault) : InputDirectory :=
  d.modify name fun n => { n with broken := n.broken.filter (· != f) }

/-- Whether a node is held by one handle alone. -/
def isGrabbed? (d : InputDirectory) (name : String) : Option Bool :=
  (d.nodes.lookup name).map (·.grabbedBy.isSome)

/-! ## paths -/

/-- The files around the input directory; none of them answers what an event node is asked. -/
def surroundings : FileTree := HostTree.tree ["work"]

/-- The node at a place of the input directory, under its name. -/
def nodeAt? (d : InputDirectory) : Place → Option (String × EventNode)
  | ["dev", "input", name] => (d.nodes.lookup name).map (name, ·)
  | _ => none

def kind? (d : InputDirectory) (p : Place) : Option EntryKind :=
  if (d.nodeAt? p).isSome then some .file else surroundings.kind? p

/-- Where a path leads, if anything stands there. -/
def findEntry (d : InputDirectory) (path : PadId) : Except FileError (Place × EntryKind) :=
  PathLookup.findEntry d.kind? surroundings.current path

/-- The node at a path, under its name. -/
def find? (d : InputDirectory) (path : PadId) : Option (String × EventNode) :=
  match d.findEntry path with
  | .error _ => none
  | .ok (place, _) => d.nodeAt? place

/-! ## the backend -/

def handle? (d : InputDirectory) (h : Nat) : Option NodeHandle := d.handles.lookup h

/-- The node a handle was opened on, while it is there. -/
def live? (d : InputDirectory) (h : NodeHandle) : Option EventNode :=
  (d.nodes.lookup h.name).filter (·.serial == h.node.serial)

def setHandle (d : InputDirectory) (h : Nat) (x : NodeHandle) : InputDirectory :=
  { d with handles := d.handles.map fun p => if p.1 = h then (h, x) else p }

def isEventName (name : String) : Bool := name.startsWith "event"

/-- Event nodes that can be opened. -/
def candidates (d : InputDirectory) : List (String × EventNode) :=
  d.nodes.filter fun p => isEventName p.1 && p.2.openError?.isNone

/-- Event nodes that can be opened and are pads. -/
def pads (d : InputDirectory) : List PadInfo :=
  (d.candidates.filter (·.2.isPad)).map fun p => ⟨pathOf p.1, p.2.title⟩

/-- Listing pads opens every event node, and so reads its title. -/
def listingFault? (d : InputDirectory) : Option TitleFault := (d.candidates.findSome? (·.2.cutByte?)).map .mk

/-- Opening a path reads the title of the node it leads to. -/
def openingFault? (d : InputDirectory) (path : PadId) : Option TitleFault :=
  match d.find? path with
  | some (_, n) => if n.openError?.isNone then n.cutByte?.map .mk else none
  | none => none

/-- What opening a path without a node runs into: any other entry can be opened but answers no query. -/
def strangerError (d : InputDirectory) (path : PadId) : SystemError :=
  match d.findEntry path with
  | .error e => .file e
  | .ok _ => .notSuitable

def openPath (d : InputDirectory) (path : PadId) : Except PadError Nat × InputDirectory :=
  match d.find? path with
  | none => (.error (.system (d.strangerError path)), d)
  | some (name, n) =>
    match n.openError? with
    | some e => (.error (.system e), d)
    | none =>
      let h : NodeHandle :=
        ⟨path, name, n, Vector.replicate 6 none, EventCode.slotKeys (n.keys.getD []), false⟩
      (.ok d.nextHandle, { d with handles := (d.nextHandle, h) :: d.handles, nextHandle := d.nextHandle + 1 })

/-- Known from the opening: never asks the node again. -/
def NodeHandle.counts (h : NodeHandle) : ControlCounts where
  axes := .ofNat (EventCode.slotAxes.toList.countP h.node.hasAxis)
  buttons := .ofNat (h.buttons.toList.countP (·.isSome))
  povs := if h.node.hasAxis EventCode.hatX then 1 else 0

/-- Axis values of the node; a node without axes is not asked. -/
def readAxes (d : InputDirectory) (h : NodeHandle) : Except PadError (List NodeAxis) :=
  if h.node.axes.isEmpty then .ok []
  else
    match d.live? h with
    | none => .error (.system .noDevice)
    | some n => if n.isBroken .axes then .error (.system .noDevice) else .ok n.axes

def readKeys (d : InputDirectory) (h : NodeHandle) : Except PadError (List Nat) :=
  match d.live? h with
  | none => .error (.system .noDevice)
  | some n => if n.isBroken .keys then .error (.system .noDevice) else .ok n.pressed

def rangeOf (axes : List NodeAxis) (code : Nat) : Option (Int32 × Int32) :=
  (axes.find? (·.code == code)).map fun a => (a.min, a.max)

/-- The value of a code; a code the node lacks reads zero. -/
def valueOf (axes : List NodeAxis) (code : Nat) : Int32 :=
  ((axes.find? (·.code == code)).map (·.value)).getD 0

/-- Slots without a captured range keep their resting value. -/
def rawAxes (h : NodeHandle) (axes : List NodeAxis) : Vector Int32 6 :=
  Vector.ofFn fun i : Fin 6 =>
    match h.ranges[i] with
    | some (min, max) => normalise (valueOf axes EventCode.slotAxes[i]) min max
    | none => RawState.resting.axes[i]

def rawButtons (h : NodeHandle) (down : List Nat) : Vector UInt8 32 :=
  Vector.ofFn fun i : Fin 32 =>
    match h.buttons[i.val]? with
    | some (some key) => if down.contains key then 0x80 else 0
    | _ => 0

/-- The hat, up being negative; centred where the node has none. -/
def rawHat (h : NodeHandle) (axes : List NodeAxis) : UInt32 :=
  if h.node.hasAxis EventCode.hatX then
    (Hat.ofDirections (valueOf axes EventCode.hatX).toInt (valueOf axes EventCode.hatY).toInt).toPov
  else Hat.centred

def rawState (h : NodeHandle) (axes : List NodeAxis) (down : List Nat) : RawState where
  axes := rawAxes h axes
  povs := #v[rawHat h axes, Hat.centred, Hat.centred, Hat.centred]
  buttons := rawButtons h down

/-- An open handle, or the answer of one that was closed. -/
def withHandle {α : Type} (d : InputDirectory) (h : Nat)
    (f : NodeHandle → Except PadError α × InputDirectory) : Except PadError α × InputDirectory :=
  match d.handle? h with
  | some x => f x
  | none => (.error (.system .noDevice), d)

/-- Keeps the ranges of the axes that are there. -/
def captureHandle (d : InputDirectory) (h : Nat) (x : NodeHandle) : Except PadError Unit × InputDirectory :=
  match d.readAxes x with
  | .error e => (.error e, d)
  | .ok axes => (.ok (), d.setHandle h { x with ranges := EventCode.slotRanges x.node.hasAxis (rangeOf axes) })

/-- A handle that has the node already asks for nothing. -/
def claimHandle (d : InputDirectory) (h : Nat) (x : NodeHandle) : Except PadError Unit × InputDirectory :=
  if x.isGrabbed then (.ok (), d)
  else
    match d.live? x with
    | none => (.error (.system .noDevice), d)
    | some n =>
      if n.isBroken .grab || n.grabbedBy.isSome then (.error (.system .busy), d)
      else
        (.ok (), (d.modify x.name ({ · with grabbedBy := some h })).setHandle h { x with isGrabbed := true })

/-- A path that leads to a node again counts as present. -/
def pollHandle (d : InputDirectory) (x : NodeHandle) : Except PadError Unit × InputDirectory :=
  if (d.find? x.path).isSome then (.ok (), d) else (.error (.disconnected x.path), d)

def readHandle (d : InputDirectory) (x : NodeHandle) : Except PadError RawState × InputDirectory :=
  match d.readAxes x with
  | .error e => (.error e, d)
  | .ok axes =>
    match d.readKeys x with
    | .error e => (.error e, d)
    | .ok down => (.ok (rawState x axes down), d)

def releaseHandle (d : InputDirectory) (h : Nat) (x : NodeHandle) : Except PadError Unit × InputDirectory :=
  if !x.isGrabbed then (.ok (), d)
  else
    match d.live? x with
    | none => (.error (.system .noDevice), d)
    | some n =>
      if n.isBroken .ungrab then (.error (.system .noDevice), d)
      else (.ok (), (d.modify x.name ({ · with grabbedBy := none })).setHandle h { x with isGrabbed := false })

/-- Closing a handle frees the node it holds. -/
def close (d : InputDirectory) (h : Nat) : InputDirectory :=
  { d with
    nodes := d.nodes.map fun p => (p.1, if p.2.grabbedBy = some h then { p.2 with grabbedBy := none } else p.2)
    handles := d.handles.filter (·.1 != h) }

instance : PadBackend InputDirectory Nat where
  enumerate d := (.ok d.pads, d)
  openPad := openPath
  objectCounts d h := d.withHandle h fun x => (.ok (NodeHandle.counts x), d)
  capture d h := d.withHandle h (d.captureHandle h)
  claim d h := d.withHandle h (d.claimHandle h)
  poll d h := d.withHandle h d.pollHandle
  read d h := d.withHandle h d.readHandle
  release d h := d.withHandle h (d.releaseHandle h)
  discard := close

end InputDirectory
end GamepadPool
