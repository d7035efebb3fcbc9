import GamepadPool.Number
/-! # Logical controls of a controller
Six analog axes, fourteen buttons and one eight-way hat. -/

namespace GamepadPool

/-! ## names

Members of finite kinds are written as one word, in settings, messages and diagnostics alike. -/

class Named (α : Type) where
  /-- Every member, in declaration order. -/
  all : List α
  name : α → String

/-- The member of that name. -/
def Named.ofName? {α : Type} [Named α] (text : String) : Option α :=
  (Named.all : List α).find? fun a => Named.name a == text

/-! ## axes -/

inductive Axis where
  | leftStickX
  | leftStickY
  | rightStickX
  | rightStickY
  | leftTrigger
  | rightTrigger
deriving DecidableEq, Repr, Inhabited

namespace Axis

def all : List Axis := [leftStickX, leftStickY, rightStickX, rightStickY, leftTrigger, rightTrigger]

def index : Axis → Fin 6
  | leftStickX => 0
  | leftStickY => 1
  | rightStickX => 2
  | rightStickY => 3
  | leftTrigger => 4
  | rightTrigger => 5

def isTrigger : Axis → Bool
  | leftTrigger | rightTrigger => true
  | _ => false

/-- Sticks rest in the middle, triggers at zero. -/
def neutral (a : Axis) : Number := if a.isTrigger then .zero else .half

def name : Axis → String
  | leftStickX => "LeftStickX"
  | leftStickY => "LeftStickY"
  | rightStickX => "RightStickX"
  | rightStickY => "RightStickY"
  | leftTrigger => "LeftTrigger"
  | rightTrigger => "RightTrigger"

instance : Named Axis := ⟨all, name⟩

theorem index_inj {a b : Axis} (h : a.index = b.index) : a = b := by
  cases a <;> cases b <;> first | rfl | exact absurd h (by decide)

end Axis

/-! ## buttons -/

inductive Button where
  | start
  | select
  | home
  | north
  | east
  | south
  | west
  | l1
  | l2
  | l3
  | r1
  | r2
  | r3
  | trackpad
deriving DecidableEq, Repr, Inhabited

namespace Button

def all : List Button :=
  [start, select, home, north, east, south, west, l1, l2, l3, r1, r2, r3, trackpad]

def index : Button → Fin 14
  | start => 0
  | select => 1
  | home => 2
  | north => 3
  | east => 4
  | south => 5
  | west => 6
  | l1 => 7
  | l2 => 8
  | l3 => 9
  | r1 => 10
  | r2 => 11
  | r3 => 12
  | trackpad => 13

def name : Button → String
  | start => "Start"
  | select => "Select"
  | home => "Home"
  | north => "North"
  | east => "East"
  | south => "South"
  | west => "West"
  | l1 => "L1"
  | l2 => "L2"
  | l3 => "L3"
  | r1 => "R1"
  | r2 => "R2"
  | r3 => "R3"
  | trackpad => "Trackpad"

instance : Named Button := ⟨all, name⟩

theorem index_inj {a b : Button} (h : a.index = b.index) : a = b := by
  cases a <;> cases b <;> first | rfl | exact absurd h (by decide)

/-- The order in which a pad numbers its buttons: faces, shoulders, menu, sticks, home, trackpad. -/
def padOrder : List Button :=
  [west, south, east, north, l1, r1, l2, r2, select, start, l3, r3, home, trackpad]

end Button

/-! ## the hat -/

inductive Hat where
  | neutral
  | north
  | northEast
  | east
  | southEast
  | south
  | southWest
  | west
  | northWest
deriving DecidableEq, Repr, Inhabited

namespace Hat

def all : List Hat := [neutral, north, northEast, east, southEast, south, southWest, west, northWest]

def name : Hat → String
  | neutral => "Neutral"
  | north => "North"
  | northEast => "NorthEast"
  | east => "East"
  | southEast => "SouthEast"
  | south => "South"
  | southWest => "SouthWest"
  | west => "West"
  | northWest => "NorthWest"

instance : Named Hat := ⟨all, name⟩

/-- The word a centred hat reports. -/
def centred : UInt32 := 0xFFFFFFFF

/-- Hundredths of a degree clockwise from north. -/
def toPov : Hat → UInt32
  | neutral => centred
  | north => 0
  | northEast => 4500
  | east => 9000
  | southEast => 13500
  | south => 18000
  | southWest => 22500
  | west => 27000
  | northWest => 31500

/-- Some drivers set only the low half of a centred word; any other word between directions is no hat. -/
def ofPov? (pov : UInt32) : Option Hat :=
  if pov &&& 0xFFFF = 0xFFFF then some neutral
  else (all.drop 1).find? fun h => h.toPov = pov

/-- From a pair of digital directions, up being negative. -/
def ofDirections (x y : Int) : Hat :=
  match compare x 0, compare y 0 with
  | .lt, .lt => northWest
  | .lt, .eq => west
  | .lt, .gt => southWest
  | .eq, .lt => north
  | .eq, .eq => neutral
  | .eq, .gt => south
  | .gt, .lt => northEast
  | .gt, .eq => east
  | .gt, .gt => southEast

end Hat

/-! ## what an object reads -/

inductive Control where
  | axis (a : Axis)
  | button (b : Button)
  | hat
deriving DecidableEq, Repr

end GamepadPool
