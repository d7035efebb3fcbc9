import GamepadPool.Device
import GamepadPool.Snapshot
/-! # Sources of snapshots
A source serves a fixed number of virtual devices. A snapshot changes only when the source is updated, so a
session reads one stable state between two polls. -/

namespace GamepadPool

class SnapshotSource (σ : Type) where
  deviceCount : σ → Nat
  /-- Refreshes every device. -/
  update : σ → σ
  /-- Refreshes one device; a source that cannot tell them apart refreshes all. -/
  refreshOne : σ → Nat → σ := fun s _ => update s
  /-- The latest snapshot, for an index below the count. -/
  inputs : σ → Nat → Option Snapshot
  /-- Whether the device lost its input since the last such question. -/
  takeLoss : σ → Nat → Bool × σ := fun s _ => (false, s)

/-- The latest snapshot, at rest where there is none. -/
def SnapshotSource.snapshot {σ : Type} [SnapshotSource σ] (s : σ) (index : Nat) : Snapshot :=
  (inputs s index).getD .neutral

/-! ## frames submitted by clients -/

/-- Submitted frames are staged; an update publishes them. -/
structure Feed where
  staged : List Snapshot
  published : List Snapshot
deriving Repr

namespace Feed

def ofCount (n : Nat) : Feed := ⟨List.replicate n .neutral, List.replicate n .neutral⟩

/-- Stages a frame, replacing the one staged before. -/
def submit (f : Feed) (index : Nat) (s : Snapshot) : Except DeviceError Feed :=
  if index < f.staged.length then .ok { f with staged := f.staged.set index s }
  else .error (.deviceNotRegistered s!"virtual device {index}")

def publish (f : Feed) (index : Nat) : Feed :=
  match f.staged[index]? with
  | some s => { f with published := f.published.set index s }
  | none => f

instance : SnapshotSource Feed where
  deviceCount f := f.staged.length
  update f := { f with published := f.staged }
  refreshOne := publish
  inputs f index := f.published[index]?

end Feed

/-- A feed that publishes every staged frame at once, whichever device is polled. -/
structure JointFeed where
  feed : Feed
deriving Repr

instance : SnapshotSource JointFeed where
  deviceCount f := SnapshotSource.deviceCount f.feed
  update f := ⟨SnapshotSource.update f.feed⟩
  inputs f index := SnapshotSource.inputs f.feed index

end GamepadPool
