import GamepadPool.Catalog
import GamepadPool.Snapshot
/-! # Raw state of a physical pad
Every pad is read in one canonical layout: six axes, four hats and thirty-two buttons. A profile says which of
them a controller of its shape has, and takes them to logical controls. -/

namespace GamepadPool

/-- Full scale of a raw axis. -/
def rawMax : Nat := 65535

structure RawState where
  /-- X, Y, Z and the rotations about them. -/
  axes : Vector Int32 6
  povs : Vector UInt32 4
  buttons : Vector UInt8 32
deriving DecidableEq, Repr

namespace RawState

/-- Sticks in the middle, triggers at zero, hats centred. -/
def resting : RawState where
  axes := #v[32767, 32767, 32767, 0, 0, 32767]
  povs := Vector.replicate 4 Hat.centred
  buttons := Vector.replicate 32 0

instance : Inhabited RawState := ⟨resting⟩

end RawState

/-- The shapes of controllers, told apart by their object counts. -/
inductive Profile where
  | standard
  /-- No analog triggers and no trackpad. -/
  | compact
  | unknown
deriving DecidableEq, Repr, Inhabited

namespace Profile

def name : Profile → String
  | standard => "Standard"
  | compact => "Compact"
  | unknown => "Unknown"

instance : Named Profile := ⟨[standard, compact, unknown], name⟩

/-- None for a device with nothing to read. -/
def classify (n : ControlCounts) : Option Profile :=
  if n = ⟨0, 0, 0⟩ then none
  else if n = ⟨6, 14, 1⟩ then some standard
  else if n = ⟨4, 13, 1⟩ then some compact
  else some unknown

/-- The canonical slot that feeds a logical axis. -/
def axisSlot : Axis → Fin 6
  | .leftStickX => ⟨0, by decide⟩
  | .leftStickY => ⟨1, by decide⟩
  | .rightStickX => ⟨2, by decide⟩
  | .leftTrigger => ⟨3, by decide⟩
  | .rightTrigger => ⟨4, by decide⟩
  | .rightStickY => ⟨5, by decide⟩

def readsAxis (p : Profile) (a : Axis) : Bool := !(p == compact && a.isTrigger)

/-- Buttons of the profile, by canonical slot. -/
def buttons (p : Profile) : List Button := if p = compact then Button.padOrder.take 13 else Button.padOrder

/-- A raw value as a fraction of full scale. -/
def fraction [Arithmetic] (raw : Int32) : Number := Rounding.ratio Arithmetic.axis raw.toInt rawMax

def setAxes [Arithmetic] (p : Profile) (raw : RawState) (s : Snapshot) : Snapshot :=
  Axis.all.foldl (fun s a => if p.readsAxis a then s.setAxis a (fraction raw.axes[axisSlot a]) else s) s

def setButtons (p : Profile) (raw : RawState) (s : Snapshot) : Snapshot :=
  (raw.buttons.toList.zip p.buttons).foldl (fun s b => s.setButton b.2 (b.1 != 0)) s

/-- The snapshot a raw state stands for. A hat between directions counts as centred. -/
def translate [Arithmetic] (p : Profile) (raw : RawState) : Snapshot :=
  (p.setButtons raw (p.setAxes raw .neutral)).setHat ((Hat.ofPov? raw.povs[0]).getD .neutral)

end Profile
end GamepadPool
