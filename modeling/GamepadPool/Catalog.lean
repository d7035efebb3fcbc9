import GamepadPool.Catalog.Draft
/-! # Catalogs
The ordered objects of one session on a device. Only their properties and matched flags ever change. -/

namespace GamepadPool

/-- How many axes, buttons and hats there are. -/
structure ControlCounts where
  axes : UInt32
  buttons : UInt32
  povs : UInt32
deriving DecidableEq, Repr

/-! ## layouts -/

/-- The object layouts a virtual device can present. -/
inductive Layout where
  /-- Six axes, fourteen buttons, one hat. -/
  | standard
deriving DecidableEq, Repr

namespace Layout

def name : Layout → String
  | standard => "Standard"

def productName : Layout → String
  | standard => "Wireless Controller"

/-- Native offsets are those of the controller's own report. -/
def steps : Layout → List BuildStep
  | standard =>
    [.axis "X Axis" .xAxis 0 12 .leftStickX,
     .axis "Y Axis" .yAxis 1 8 .leftStickY,
     .axis "Z Axis" .zAxis 2 4 .rightStickX,
     .axis "Z Rotation" .rzAxis 5 0 .rightStickY,
     .axis "X Rotation" .rxAxis 3 28 .leftTrigger,
     .axis "Y Rotation" .ryAxis 4 24 .rightTrigger,
     .buttons 220 Button.padOrder,
     .hat "Hat Switch" 0 16,
     .collection "Collection 0 - Game Pad" 0]

def objects (l : Layout) : List DeviceObject :=
  match CatalogDraft.build l.steps with
  | .ok objects => objects
  | .error _ => []

end Layout

/-! ## catalogs -/

structure Catalog where
  layout : Layout
  objects : List DeviceObject
deriving DecidableEq, Repr

namespace Catalog

def ofLayout (l : Layout) : Catalog := ⟨l, l.objects⟩

/-- The first object, in catalog order, that the bits name. -/
def find? (c : Catalog) (bits : UInt32) : Option Nat := c.objects.findIdx? (·.answersTo bits)

def enumerate (c : Catalog) (filter : UInt32) : List DeviceObject := c.objects.filter (·.passes filter)

def counts (c : Catalog) : ControlCounts where
  axes := .ofNat (c.objects.countP (·.kind.isAxis))
  buttons := .ofNat (c.objects.countP (·.kind.isButton))
  povs := .ofNat (c.objects.countP (·.kind == .pov))

/-- Changes the object at an index. -/
def modify (c : Catalog) (index : Nat) (f : DeviceObject → DeviceObject) : Catalog :=
  { c with objects := c.objects.modify index f }

/-- Indices of the objects in use. -/
def matchedIndices (c : Catalog) : List Nat :=
  (List.range c.objects.length).filter fun i => (c.objects[i]?.map (·.isMatched)).getD false

/-- Marks as in use exactly the objects whose index is listed. -/
def mark (c : Catalog) (taken : List Nat) : Catalog :=
  { c with objects := c.objects.mapIdx fun i o => { o with isMatched := taken.contains i } }

end Catalog
end GamepadPool
