import GamepadPool.Proofs.Pad.Directory
import GamepadPool.Proofs.Pad.Rescaling
import GamepadPool.Proofs.Pad.Translation
/-! # Where the controls of an event node go
A node names its axes and keys by code numbers, a raw state by slots, and a snapshot by logical controls. The tables on
the way line up: every logical control is fed by the codes that stand for it. -/

namespace GamepadPool

/-! ## codes of logical controls -/

/-- The axis of a node that feeds a logical axis. -/
def Axis.eventCode : Axis → Nat
  | leftStickX => 0
  | leftStickY => 1
  | rightStickX => 3
  | rightStickY => 4
  | leftTrigger => 2
  | rightTrigger => 5

/-- The keys that can feed a logical button, the preferred one first. -/
def Button.eventKeys : Button → List Nat
  | west => [0x134]
  | south => [0x130]
  | east => [0x131]
  | north => [0x133]
  | l1 => [0x136]
  | r1 => [0x137]
  | l2 => [0x138]
  | r2 => [0x139]
  | select => [0x13a]
  | start => [0x13b]
  | l3 => [0x13d]
  | r3 => [0x13e]
  | home => [0x13c]
  | trackpad => [0x14a, 0x121, 0x110]

theorem EventCode.slotAxes_axisSlot (x : Axis) : slotAxes.get (Profile.axisSlot x) = x.eventCode := by
  cases x <;> rfl

theorem EventCode.slotCandidates_slot (b : Button) : slotCandidates[b.slot.val]? = some b.eventKeys := by
  cases b <;> rfl

theorem RawState.resting_axisSlot (x : Axis) :
    (resting.axes.get (Profile.axisSlot x)).toInt = if x.isTrigger then 0 else 32767 := by
  cases x <;> decide

theorem Hat.ofPov?_toPov (h : Hat) : ofPov? h.toPov = some h := by
  cases h <;> decide

/-- A compact controller has all buttons but the trackpad. -/
theorem Profile.mem_buttons (p : Profile) (b : Button) : b ∈ p.buttons ↔ ¬ (p = .compact ∧ b = .trackpad) := by
  cases p <;> cases b <;> decide

/-! ## positions -/

namespace EventNode

/-- Where a logical axis stands on the full scale, from the ranges of `n` and the values of `m`; at rest where the node
lacks the axis. -/
def position (n m : EventNode) (x : Axis) : Int :=
  match if n.hasAxis x.eventCode then InputDirectory.rangeOf n.axes x.eventCode else none with
  | some (min, max) => (normalise (InputDirectory.valueOf m.axes x.eventCode) min max).toInt
  | none => if x.isTrigger then 0 else 32767

/-- The key that stands for a button: the first of its candidates that the node has. -/
def keyOf? (n : EventNode) (b : Button) : Option Nat := b.eventKeys.find? (n.keys.getD []).contains

/-- The direction of the hat, if the node has one. -/
def direction (n m : EventNode) : Hat :=
  if n.hasAxis EventCode.hatX then
    .ofDirections (InputDirectory.valueOf m.axes EventCode.hatX).toInt
      (InputDirectory.valueOf m.axes EventCode.hatY).toInt
  else .neutral

theorem position_between (n m : EventNode) (x : Axis) : 0 ≤ n.position m x ∧ n.position m x ≤ 65535 := by
  unfold position
  split
  · exact normalise_between ..
  · split <;> decide

end EventNode

namespace InputDirectory

variable {y : NodeHandle} {n m : EventNode}

/-- The slot that feeds a logical axis holds its position. -/
theorem axes_rawAxes (hranges : y.ranges = n.ranges) (x : Axis) :
    ((rawAxes y m.axes).get (Profile.axisSlot x)).toInt = n.position m x := by
  have hrange : y.ranges.get (Profile.axisSlot x) =
      if n.hasAxis x.eventCode then rangeOf n.axes x.eventCode else none := by
    rw [hranges, ← EventCode.slotAxes_axisSlot]
    exact Vector.getElem_map _ (Profile.axisSlot x).isLt
  have hget : (rawAxes y m.axes).get (Profile.axisSlot x) = (y.ranges.get (Profile.axisSlot x)).elim
      (RawState.resting.axes.get (Profile.axisSlot x))
      fun range => normalise (valueOf m.axes (EventCode.slotAxes.get (Profile.axisSlot x))) range.1 range.2 := by
    refine (Vector.getElem_ofFn (Profile.axisSlot x).isLt).trans ?_
    split
    · rename_i min max hsome
      have hslot : y.ranges.get (Profile.axisSlot x) = some (min, max) := hsome
      rw [hslot]
      rfl
    · rename_i hnone
      have hslot : y.ranges.get (Profile.axisSlot x) = none := hnone
      rw [hslot]
      rfl
  rw [hget, hrange, EventCode.slotAxes_axisSlot, EventNode.position]
  cases if n.hasAxis x.eventCode then rangeOf n.axes x.eventCode else none with
  | none => exact RawState.resting_axisSlot x
  | some range => rfl

/-- The slot that feeds a logical button is set where the key that stands for it is down. -/
theorem buttons_rawButtons (hbuttons : y.buttons = EventCode.slotKeys (n.keys.getD [])) (down : List Nat) (b : Button) :
    ((rawButtons y down).get b.slot != 0) = true ↔ ∃ key, n.keyOf? b = some key ∧ key ∈ down := by
  have hkey : y.buttons[b.slot.val]? = some (n.keyOf? b) := by
    rw [hbuttons, EventCode.slotKeys, Vector.getElem?_map, EventCode.slotCandidates_slot]
    rfl
  have hget : (rawButtons y down).get b.slot = _ := Vector.getElem_ofFn b.slot.isLt
  rw [hget]
  dsimp only [Fin.eta]
  rw [hkey]
  cases n.keyOf? b with
  | none => simp
  | some key =>
    by_cases hdown : key ∈ down <;> simp [hdown]

/-- The direction survives the way over its word. -/
theorem ofPov?_rawHat (hnode : y.node = n) : Hat.ofPov? (rawHat y m.axes) = some (n.direction m) := by
  rw [rawHat, EventNode.direction, hnode]
  split
  · exact Hat.ofPov?_toPov _
  · exact Hat.ofPov?_toPov .neutral

/-- Every control of an event node reaches its logical control, whatever else happened to the directory before the node
was opened, before it was captured, and before it is read. An axis is at the fraction of the full scale where its value
stands in its captured range, or at rest where the node lacks it; a button is pressed where the first of its keys that
the node has is down; the hat points where the two hat axes do. A compact controller has no triggers and no trackpad. -/
theorem controls_reached [a : Arithmetic] (ha : a = .exact ∨ a = .binary) (before between later : List Event)
    {path : PadId} {h : Nat} {opened captured read : InputDirectory} {raw : RawState}
    (hopen : PadBackend.openPad (empty.after before) path = (.ok h, opened))
    (hcapture : PadBackend.capture (opened.after between) h = (.ok (), captured))
    (hread : PadBackend.read (captured.after later) h = (.ok raw, read)) :
    ∃ name n m, (empty.after before).find? path = some (name, n) ∧ (captured.after later).nodes.lookup name = some m ∧
      n.Alike m ∧ ∀ p : Profile,
        (∀ x : Axis, (p.translate raw).axis x =
          if p = .compact ∧ x.isTrigger then x.neutral else a.axis (n.position m x / 65535)) ∧
        (∀ b : Button, (p.translate raw).button b = true ↔
          ¬ (p = .compact ∧ b = .trackpad) ∧ ∃ key, n.keyOf? b = some key ∧ key ∈ m.pressed) ∧
        (p.translate raw).hat = n.direction m := by
  obtain ⟨name, n, m, hfind, hlookup, halike, y, hnode, hranges, hbuttons, rfl⟩ :=
    raw_of_read before between later hopen hcapture hread
  refine ⟨name, n, m, hfind, hlookup, halike, fun p => ⟨fun x => ?_, fun b => ?_, ?_⟩⟩
  · have hposition := axes_rawAxes (m := m) hranges x
    obtain ⟨h0, h1⟩ := n.position_between m x
    rw [← hposition] at h0 h1
    rw [Profile.axis_translate, rawState, Profile.held_fraction_eq (Arithmetic.reliable_of ha) x h0 h1, hposition]
    cases p <;> cases x <;> rfl
  · have hdown := buttons_rawButtons hbuttons m.pressed b
    rw [Profile.button_translate, Bool.and_eq_true, List.contains_iff_mem, Profile.mem_buttons]
    exact and_congr_right fun _ => hdown
  · have hhat : Hat.ofPov? (rawState y m.axes m.pressed).povs[0] = some (n.direction m) := ofPov?_rawHat hnode
    change (Hat.ofPov? (rawState y m.axes m.pressed).povs[0]).getD .neutral = n.direction m
    rw [hhat]
    rfl

/-- A pad without a touch surface, whose second stick has an empty range: another key stands for the trackpad, the stick
is in the middle, and what the pad lacks is at rest. -/
theorem controls_reached_fallback :
    let axes : List NodeAxis := [⟨0, 127, -128, 127⟩, ⟨2, 0, 0, 255⟩, ⟨3, 9, 5, 5⟩, ⟨16, 0, -1, 1⟩]
    let before : List Event := [.plug "event3" (some "Pad") (some [0x130, 0x121, 0x110]) axes]
    let later : List Event := [.unplug "event0", .move "event3" [(2, 255), (16, -1)], .press "event3" [0x121]]
    let opened := (PadBackend.openPad (empty.after before) "/dev/input/event3").2
    let captured := (PadBackend.capture (opened.after []) 0).2
    let raw : RawState :=
      ⟨#v[65535, 32767, 32767, 65535, 0, 32767], #v[27000, Hat.centred, Hat.centred, Hat.centred],
        (Vector.replicate 32 0).set 13 0x80⟩
    letI : Arithmetic := .exact
    let s := Profile.unknown.translate raw
    PadBackend.openPad (empty.after before) "/dev/input/event3" = (.ok 0, opened) ∧
      PadBackend.capture (opened.after []) 0 = (.ok (), captured) ∧
      PadBackend.read (captured.after later) 0 = (.ok raw, captured.after later) ∧
      s.axis .leftTrigger = .rat 1 ∧ s.button .trackpad = true ∧ s.hat = .west := by
  intro axes before later opened captured raw s
  have hopen : PadBackend.openPad (empty.after before) "/dev/input/event3" = (.ok 0, opened) := by decide +kernel
  have hcapture : PadBackend.capture (opened.after []) 0 = (.ok (), captured) := by decide +kernel
  have hread : PadBackend.read (captured.after later) 0 = (.ok raw, captured.after later) := by decide +kernel
  obtain ⟨name, n, m, hfind, hlookup, -, hcontrols⟩ :=
    @controls_reached .exact (.inl rfl) before [] later _ _ _ _ _ _ hopen hcapture hread
  have hnode : (empty.after before).find? "/dev/input/event3" =
      some ("event3", ⟨0, some "Pad", some [0x130, 0x121, 0x110], axes, [], [], none⟩) := by decide +kernel
  obtain ⟨rfl, rfl⟩ := Prod.mk.inj (Option.some.inj (hnode.symm.trans hfind))
  have hmoved : (captured.after later).nodes.lookup "event3" =
      some ⟨0, some "Pad", some [0x130, 0x121, 0x110],
        [⟨0, 127, -128, 127⟩, ⟨2, 255, 0, 255⟩, ⟨3, 9, 5, 5⟩, ⟨16, -1, -1, 1⟩], [0x121], [], none⟩ := by decide +kernel
  obtain rfl := Option.some.inj (hmoved.symm.trans hlookup)
  obtain ⟨haxis, hbutton, hhat⟩ := hcontrols .unknown
  refine ⟨hopen, hcapture, hread, (haxis .leftTrigger).trans ?_, (hbutton .trackpad).2 ?_, hhat.trans ?_⟩
  · decide +kernel
  · exact ⟨by decide, 0x121, by decide, by decide⟩
  · decide +kernel

end InputDirectory

end GamepadPool
