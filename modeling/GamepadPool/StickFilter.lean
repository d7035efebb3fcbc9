import GamepadPool.Snapshot
/-! # The input filter
Works on the left stick only, between the source of a snapshot and its rendering. -/

namespace GamepadPool

structure StickFilter where
  /-- The stick is centred while the hat is held. -/
  hatOverridesStick : Bool
  /-- Beyond it each stick axis goes to its edge, up to it to the centre. -/
  threshold : Option Number
deriving DecidableEq, Repr

namespace StickFilter

/-- Changes nothing. -/
def none : StickFilter := ⟨false, .none⟩

def isInert (f : StickFilter) : Bool := !f.hatOverridesStick && f.threshold.isNone

/-- The side of the centre a stick axis is on, and how far from the centre it is, in half-ranges. -/
def deflection [Arithmetic] (value : Number) : Number × Number :=
  let r := Arithmetic.axis
  if Number.half.lt value then (.one, r.mul (r.sub value .half) (.rat 2))
  else (.rat (-1), r.mul (r.sub .half value) (.rat 2))

/-- Where a stick axis snaps to: all the way to its side, or not at all. -/
def snap [Arithmetic] (threshold value : Number) : Number :=
  let r := Arithmetic.axis
  let (side, distance) := deflection value
  let magnitude := if threshold.lt distance then .one else .zero
  r.add .half (r.mul (r.mul .half side) magnitude)

def centreStick (s : Snapshot) : Snapshot := (s.setAxis .leftStickX .half).setAxis .leftStickY .half

def snapStick [Arithmetic] (threshold : Number) (s : Snapshot) : Snapshot :=
  (s.setAxis .leftStickX (snap threshold (s.axis .leftStickX))).setAxis .leftStickY
    (snap threshold (s.axis .leftStickY))

def apply [Arithmetic] (f : StickFilter) (s : Snapshot) : Snapshot :=
  let s := if f.hatOverridesStick && s.hat != .neutral then centreStick s else s
  match f.threshold with
  | some t => snapStick t s
  | .none => s

end StickFilter
end GamepadPool
