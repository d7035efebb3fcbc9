import GamepadPool.Catalog.Object
/-! # Building a catalog
Axes and hats are numbered by the caller, since their numbers follow their usage; buttons are numbered as
they come. -/

namespace GamepadPool

/-- One addition to a catalog under construction. -/
inductive BuildStep where
  | axis (name : String) (usage : Usage) (number : UInt16) (offset : UInt32) (axis : Axis)
  | button (offset : UInt32) (button : Button)
  /-- Buttons in consecutive bytes. -/
  | buttons (firstOffset : UInt32) (buttons : List Button)
  | hat (name : String) (number : UInt16) (offset : UInt32)
  | collection (name : String) (number : UInt16)
deriving Repr

/-- Why a catalog cannot be built. -/
inductive BuildError where
  | counterOverflow
deriving DecidableEq, Repr

def BuildError.message : BuildError → String
  | counterOverflow => "attempt to add with overflow"

structure CatalogDraft where
  objects : List DeviceObject
  nextButton : UInt16
deriving Repr

namespace CatalogDraft

def empty : CatalogDraft := ⟨[], 0⟩

def push (b : CatalogDraft) (o : DeviceObject) : CatalogDraft := { b with objects := b.objects ++ [o] }

/-- A push button named after its number. -/
def buttonObject (number : UInt16) (offset : UInt32) (button : Button) : DeviceObject :=
  .ofControl s!"Button {number.toNat}" .button .pushButton number offset (some (.button button))

def addButton (b : CatalogDraft) (offset : UInt32) (button : Button) : Except BuildError CatalogDraft :=
  if b.nextButton = 0xFFFF then .error .counterOverflow
  else .ok { b.push (buttonObject b.nextButton offset button) with nextButton := b.nextButton + 1 }

/-- The offset counter is advanced once more than there are buttons. -/
def addButtons (b : CatalogDraft) (offset : UInt32) : List Button → Except BuildError CatalogDraft
  | [] => if offset = 0xFFFFFFFF then .error .counterOverflow else .ok b
  | button :: rest =>
    if offset = 0xFFFFFFFF then .error .counterOverflow
    else
      match b.addButton offset button with
      | .ok b => b.addButtons (offset + 1) rest
      | .error e => .error e

def step (b : CatalogDraft) : BuildStep → Except BuildError CatalogDraft
  | .axis name usage number offset axis =>
    .ok (b.push (.ofControl name usage .absoluteAxis number offset (some (.axis axis))))
  | .button offset button => b.addButton offset button
  | .buttons first buttons => b.addButtons first buttons
  | .hat name number offset => .ok (b.push (.ofControl name .pov .pov number offset (some .hat)))
  | .collection name number => .ok (b.push (.ofControl name .unknown .collection number 0 none))

def run (b : CatalogDraft) : List BuildStep → Except BuildError CatalogDraft
  | [] => .ok b
  | s :: rest =>
    match b.step s with
    | .ok b => b.run rest
    | .error e => .error e

/-- The objects that a sequence of steps adds, in their order. -/
def build (steps : List BuildStep) : Except BuildError (List DeviceObject) := (empty.run steps).map (·.objects)

end CatalogDraft
end GamepadPool
