import GamepadPool.Proofs.Pad.EventNodes
/-! # Controls at rest
What rests is neutral in the snapshot, the sticks apart: full scale is odd, so no raw value of a stick axis is half of
it, and a stick that rests or is not there reads as moved by a little. -/

namespace GamepadPool

/-- An axis of either stick. -/
def Control.isStick : Control → Bool
  | axis x => !x.isTrigger
  | _ => false

/-- The slot of a control holds what it holds at rest. -/
def RawState.Rests (raw : RawState) : Control → Prop
  | .axis x => raw.axes.get (Profile.axisSlot x) = resting.axes.get (Profile.axisSlot x)
  | .button b => raw.buttons.get b.slot = resting.buttons.get b.slot
  | .hat => raw.povs.get 0 = resting.povs.get 0

/-- The control is where it is while nothing is touched. -/
def Snapshot.AtNeutral (s : Snapshot) : Control → Prop
  | .axis x => (s.axis x).same x.neutral = true
  | .button b => s.button b = false
  | .hat => s.hat = .neutral

theorem Number.same_iff {x y : Number} {p q : Rat} (hx : x.value? = some p) (hy : y.value? = some q) :
    x.same y = true ↔ p = q := by
  rw [same, Bool.and_eq_true, le_iff hx hy, le_iff hy hx, le_antisymm_iff]

theorem RawState.resting_slot (b : Button) : resting.buttons.get b.slot = 0 := by cases b <;> rfl

theorem Axis.value_neutral (x : Axis) : x.neutral.value? = some (if x.isTrigger then 0 else 1 / 2) := by
  cases x <;> rfl

/-- A snapshot is neutral if all its controls are. -/
theorem Snapshot.isNeutral_iff (s : Snapshot) : s.isNeutral = true ↔ ∀ c, s.AtNeutral c := by
  have haxes : (∀ x ∈ Axis.all, (s.axis x).same x.neutral = true) ↔ ∀ x, s.AtNeutral (.axis x) :=
    forall_congr' fun x => forall_prop_of_true (by cases x <;> decide)
  have hbuttons : (∀ b ∈ Button.all, s.button b = false) ↔ ∀ b, s.AtNeutral (.button b) :=
    forall_congr' fun b => forall_prop_of_true (by cases b <;> decide)
  simp only [isNeutral, Bool.and_eq_true, List.all_eq_true, Bool.not_eq_true', beq_iff_eq, haxes, hbuttons]
  constructor
  · rintro ⟨⟨haxis, hbutton⟩, hhat⟩ (x | b | _)
    exacts [haxis x, hbutton b, hhat]
  · exact fun h => ⟨⟨fun x => h (.axis x), fun b => h (.button b)⟩, h .hat⟩

namespace Profile

variable (p : Profile)

theorem readsAxis_stick {x : Axis} (h : x.isTrigger = false) : p.readsAxis x = true := by simp [readsAxis, h]

variable [a : Arithmetic] {raw : RawState}

/-- No raw value of an axis stands for one half. -/
theorem held_fraction_ne_half (ha : a.Reliable) (x : Axis) (raw : Int32) :
    ∃ v, (Snapshot.held x (fraction raw)).value? = some v ∧ v ≠ 1 / 2 := by
  obtain ⟨v, hv, -, -, hnear⟩ := held_fraction_near ha x raw
  refine ⟨v, hv, ?_⟩
  rintro rfl
  rw [abs_le] at hnear
  -- the nearest places to the middle are half a step away from it
  rcases le_or_gt (RawState.position raw) 32767 with h | h
  · have hbelow : ((RawState.position raw : Int) : Rat) ≤ 32767 := by exact_mod_cast h
    linarith
  · have habove : (32768 : Rat) ≤ (RawState.position raw : Int) := by exact_mod_cast h
    linarith

theorem not_atNeutral_stick (ha : a.Reliable) (raw : RawState) {x : Axis} (hx : x.isTrigger = false) :
    ¬ (p.translate raw).AtNeutral (.axis x) := by
  obtain ⟨v, hv, hne⟩ := held_fraction_ne_half ha x (raw.axes.get (axisSlot x))
  have hneutral := x.value_neutral
  rw [hx] at hneutral
  rw [Snapshot.AtNeutral, axis_translate, if_pos (p.readsAxis_stick hx), Number.same_iff hv hneutral]
  exact hne

/-- What rests is neutral, the sticks apart. -/
theorem atNeutral_of_rests (ha : a.Reliable) {c : Control} (h : raw.Rests c) (hc : c.isStick = false) :
    (p.translate raw).AtNeutral c := by
  cases c with
  | axis x =>
    have hx : x.isTrigger = true := by simpa [Control.isStick] using hc
    have hzero : (raw.axes.get (axisSlot x)).toInt = 0 := by rw [h, RawState.resting_axisSlot, if_pos hx]
    have hneutral := x.value_neutral
    rw [if_pos hx] at hneutral
    rw [Snapshot.AtNeutral, axis_translate]
    split
    · have hheld := held_fraction_eq ha x hzero.ge (hzero.trans_le (by norm_num))
      rw [hzero, Int.cast_zero, zero_div] at hheld
      rw [hheld]
      exact (Number.same_iff ha.axis.keeps_zero.value hneutral).2 rfl
    · exact (Number.same_iff hneutral hneutral).2 rfl
  | button b =>
    rw [Snapshot.AtNeutral, button_translate, h, RawState.resting_slot]
    simp
  | hat =>
    change (Hat.ofPov? (raw.povs.get 0)).getD .neutral = .neutral
    rw [h]
    rfl

/-- A stick that rests is just short of the middle. -/
theorem axis_of_resting_stick (ha : a.Reliable) {x : Axis} (hx : x.isTrigger = false) (h : raw.Rests (.axis x)) :
    (p.translate raw).axis x = a.axis (32767 / 65535) := by
  have hmiddle : (raw.axes.get (axisSlot x)).toInt = 32767 := by
    rw [h, RawState.resting_axisSlot, hx]
    rfl
  rw [axis_translate, if_pos (p.readsAxis_stick hx), held_fraction_eq ha x (by omega) (by omega), hmiddle]
  norm_num

end Profile

/-! ## nodes that lack controls -/

/-- The node has nothing that feeds the control. -/
def EventNode.Lacks (n : EventNode) : Control → Prop
  | .axis x => n.hasAxis x.eventCode = false
  | .button b => n.keyOf? b = none
  | .hat => n.hasAxis EventCode.hatX = false

theorem InputDirectory.rests_of_lacks {y : NodeHandle} {n m : EventNode} (hnode : y.node = n)
    (hranges : y.ranges = n.ranges) (hbuttons : y.buttons = EventCode.slotKeys (n.keys.getD [])) {c : Control}
    (h : n.Lacks c) : (rawState y m.axes m.pressed).Rests c := by
  cases c with
  | axis x =>
    have hlacks : n.hasAxis x.eventCode = false := h
    have hposition := axes_rawAxes (m := m) hranges x
    rw [EventNode.position, hlacks] at hposition
    exact Int32.toInt_inj.1 (hposition.trans (RawState.resting_axisSlot x).symm)
  | button b =>
    have hlacks : n.keyOf? b = none := h
    have hdown := buttons_rawButtons hbuttons m.pressed b
    rw [hlacks] at hdown
    have hup : (rawButtons y m.pressed).get b.slot = 0 := by simpa using hdown
    exact hup.trans (RawState.resting_slot b).symm
  | hat =>
    have hlacks : n.hasAxis EventCode.hatX = false := h
    change rawHat y m.axes = Hat.centred
    rw [rawHat, hnode, hlacks]
    rfl

/-- A control that rests is neutral in the snapshot exactly if it is no stick axis; a stick that rests is just short of
the middle, and so no raw state at all gives a neutral snapshot. This holds of whatever an event node lacks, which is
always at rest. -/
theorem neutral_iff_not_stick [a : Arithmetic] (ha : a = .exact ∨ a = .binary) :
    (∀ (p : Profile) (raw : RawState),
      (∀ c, raw.Rests c → ((p.translate raw).AtNeutral c ↔ c.isStick = false)) ∧
      (∀ x : Axis, x.isTrigger = false → raw.Rests (.axis x) → (p.translate raw).axis x = a.axis (32767 / 65535)) ∧
      (p.translate raw).isNeutral = false) ∧
    ∀ (before between later : List InputDirectory.Event) (path : PadId) (h : Nat)
      (opened captured read : InputDirectory) (raw : RawState),
      PadBackend.openPad (InputDirectory.empty.after before) path = (.ok h, opened) →
      PadBackend.capture (opened.after between) h = (.ok (), captured) →
      PadBackend.read (captured.after later) h = (.ok raw, read) →
      ∃ name n, (InputDirectory.empty.after before).find? path = some (name, n) ∧ ∀ c, n.Lacks c →
        raw.Rests c ∧ ∀ p : Profile, ((p.translate raw).AtNeutral c ↔ c.isStick = false) := by
  have hreliable := Arithmetic.reliable_of ha
  have hiff : ∀ (p : Profile) (raw : RawState) c, raw.Rests c →
      ((p.translate raw).AtNeutral c ↔ c.isStick = false) := by
    intro p raw c hrest
    refine ⟨fun hneutral => ?_, p.atNeutral_of_rests hreliable hrest⟩
    by_contra hstick
    cases c with
    | axis x => exact p.not_atNeutral_stick hreliable raw (by simpa [Control.isStick] using hstick) hneutral
    | button b => exact hstick rfl
    | hat => exact hstick rfl
  refine ⟨fun p raw => ⟨hiff p raw, fun x => p.axis_of_resting_stick hreliable, ?_⟩, ?_⟩
  · rw [← Bool.not_eq_true, Snapshot.isNeutral_iff]
    exact fun hall => p.not_atNeutral_stick hreliable raw (x := .leftStickX) rfl (hall _)
  · intro before between later path h opened captured read raw hopen hcapture hread
    obtain ⟨name, n, m, hfind, -, -, y, hnode, hranges, hbuttons, rfl⟩ :=
      InputDirectory.raw_of_read before between later hopen hcapture hread
    refine ⟨name, n, hfind, fun c hlacks => ?_⟩
    have hrest := InputDirectory.rests_of_lacks (m := m) hnode hranges hbuttons hlacks
    exact ⟨hrest, fun p => hiff p _ c hrest⟩

/-- A pad with one trigger and one key, both held: what it lacks is neutral, but for the sticks. -/
theorem neutral_iff_not_stick_of_few_axes :
    letI : Arithmetic := .binary
    let before : List InputDirectory.Event := [.plug "event3" (some "Pad") (some [0x130]) [⟨2, 0, 0, 255⟩]]
    let later : List InputDirectory.Event := [.move "event3" [(2, 255)], .press "event3" [0x130]]
    let opened := (PadBackend.openPad (InputDirectory.empty.after before) "/dev/input/event3").2
    let captured := (PadBackend.capture (opened.after []) 0).2
    let raw : RawState :=
      { RawState.resting with
        axes := #v[32767, 32767, 32767, 65535, 0, 32767], buttons := (Vector.replicate 32 0).set 1 0x80 }
    let s := Profile.unknown.translate raw
    PadBackend.openPad (InputDirectory.empty.after before) "/dev/input/event3" = (.ok 0, opened) ∧
      PadBackend.capture (opened.after []) 0 = (.ok (), captured) ∧
      PadBackend.read (captured.after later) 0 = (.ok raw, captured.after later) ∧
      s.AtNeutral (.axis .rightTrigger) ∧ s.AtNeutral (.button .trackpad) ∧ s.AtNeutral .hat ∧
      ¬ s.AtNeutral (.axis .rightStickY) ∧ s.axis .rightStickY = .rat (65535 / 131072) ∧ s.isNeutral = false := by
  intro before later opened captured raw s
  have hopen : PadBackend.openPad (InputDirectory.empty.after before) "/dev/input/event3" = (.ok 0, opened) := by
    decide +kernel
  have hcapture : PadBackend.capture (opened.after []) 0 = (.ok (), captured) := by decide +kernel
  have hread : PadBackend.read (captured.after later) 0 = (.ok raw, captured.after later) := by decide +kernel
  obtain ⟨hraw, hnode⟩ := @neutral_iff_not_stick .binary (.inr rfl)
  obtain ⟨-, hstick, hmoved⟩ := hraw .unknown raw
  obtain ⟨name, n, hfind, hlacks⟩ := hnode before [] later _ _ _ _ _ _ hopen hcapture hread
  have hplugged : (InputDirectory.empty.after before).find? "/dev/input/event3" =
      some ("event3", ⟨0, some "Pad", some [0x130], [⟨2, 0, 0, 255⟩], [], [], none⟩) := by decide +kernel
  obtain ⟨rfl, rfl⟩ := Prod.mk.inj (Option.some.inj (hplugged.symm.trans hfind))
  refine ⟨hopen, hcapture, hread, ((hlacks (.axis .rightTrigger) rfl).2 _).2 rfl,
    ((hlacks (.button .trackpad) rfl).2 _).2 rfl, ((hlacks .hat rfl).2 _).2 rfl, fun hneutral => ?_,
    (hstick .rightStickY rfl (hlacks (.axis .rightStickY) rfl).1).trans ?_, hmoved⟩
  · exact absurd (((hlacks (.axis .rightStickY) rfl).2 _).1 hneutral) (by decide)
  · decide +kernel

/-- The state of a pad that nobody touches is not neutral. -/
theorem resting_not_neutral :
    letI : Arithmetic := .binary
    let s := Profile.standard.translate .resting
    RawState.resting.Rests (.axis .leftStickX) ∧ ¬ s.AtNeutral (.axis .leftStickX) ∧
      s.axis .leftStickX = .rat (65535 / 131072) ∧ s.isNeutral = false := by
  intro s
  have haxis : s.axis .leftStickX = .rat (65535 / 131072) := by decide +kernel
  refine ⟨rfl, ?_, haxis, by decide +kernel⟩
  rw [Snapshot.AtNeutral, haxis]
  decide +kernel

end GamepadPool
