import GamepadPool.Control
/-! # Snapshots of one controller
Axis values lie in `[0, 1]` when they were set one by one; a snapshot taken over whole may hold any. -/

namespace GamepadPool

structure Snapshot where
  axes : Vector Number 6
  buttons : Vector Bool 14
  hat : Hat
deriving DecidableEq, Repr

namespace Snapshot

/-- Nothing touched. -/
def neutral : Snapshot where
  axes := #v[.half, .half, .half, .half, .zero, .zero]
  buttons := Vector.replicate 14 false
  hat := .neutral

instance : Inhabited Snapshot := ⟨neutral⟩

def axis (s : Snapshot) (a : Axis) : Number := s.axes[a.index]

def button (s : Snapshot) (b : Button) : Bool := s.buttons[b.index]

/-- Clamped into `[0, 1]`; what is no number puts the axis at rest. -/
def setAxis (s : Snapshot) (a : Axis) (x : Number) : Snapshot :=
  { s with axes := s.axes.set a.index (if x.isNaN then a.neutral else .clamp .zero .one x) }

def setButton (s : Snapshot) (b : Button) (pressed : Bool) : Snapshot :=
  { s with buttons := s.buttons.set b.index pressed }

def setHat (s : Snapshot) (h : Hat) : Snapshot := { s with hat := h }

/-- Every value equals the resting one; a negative zero counts as zero. -/
def isNeutral (s : Snapshot) : Bool :=
  Axis.all.all (fun a => (s.axis a).same a.neutral) && Button.all.all (fun b => !s.button b) && s.hat == .neutral

/-! ## reading back what was set -/

@[simp] theorem axis_neutral (a : Axis) : neutral.axis a = a.neutral := by cases a <;> rfl

@[simp] theorem button_neutral (b : Button) : neutral.button b = false := by cases b <;> rfl

theorem axis_setAxis (s : Snapshot) (a b : Axis) (x : Number) :
    (s.setAxis a x).axis b = if a = b then (if x.isNaN then a.neutral else .clamp .zero .one x) else s.axis b := by
  by_cases h : a = b
  · subst h; simp [axis, setAxis]
  · have : (a.index : Nat) ≠ b.index := fun e => h (Axis.index_inj (Fin.ext e))
    simp [axis, setAxis, h, this]

@[simp] theorem axis_setHat (s : Snapshot) (h : Hat) (a : Axis) : (s.setHat h).axis a = s.axis a := rfl

theorem button_setButton (s : Snapshot) (a b : Button) (p : Bool) :
    (s.setButton a p).button b = if a = b then p else s.button b := by
  by_cases h : a = b
  · subst h; simp [button, setButton]
  · have : (a.index : Nat) ≠ b.index := fun e => h (Button.index_inj (Fin.ext e))
    simp [button, setButton, h, this]

@[simp] theorem button_setHat (s : Snapshot) (h : Hat) (b : Button) : (s.setHat h).button b = s.button b := rfl

end Snapshot
end GamepadPool
