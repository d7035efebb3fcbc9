import GamepadPool.Proofs.Format.Axis
import GamepadPool.Proofs.Format.Rendering
import GamepadPool.Proofs.Pad.Translation
/-! # A pad through the joystick format
The tables of the translation, of the layout and of the format cancel out: on the standard layout the joystick format
shows a pad's axes, hat and buttons in the order in which the pad has them. -/

namespace GamepadPool

/-! ## what an object shows of a pad -/

/-- What a control of a pad shows, on an axis with the properties it started with. -/
def Profile.report (p : Profile) (raw : RawState) : Control → List UInt8
  | .axis x => wordBytes (if p.readsAxis x then .ofNat (RawState.position (raw.axes.get (axisSlot x))) else 0)
  | .button b => [if p.buttons.contains b && raw.buttons.get b.slot != 0 then pressed else 0]
  | .hat => wordBytes (if raw.povs[0]! ∈ Hat.directions then raw.povs[0]! else Hat.centred)

section

variable [a : Arithmetic] {o : DeviceObject} {objects : List DeviceObject} {p : Profile}

theorem axisWord_translate (ha : a.Reliable) (ho : o.Unadjusted) (p : Profile) (raw : RawState) (x : Axis) :
    (axisWord o ((p.translate raw).axis x)).toUInt32 =
      if p.readsAxis x then .ofNat (RawState.position (raw.axes.get (Profile.axisSlot x))) else 0 := by
  rw [Profile.axis_translate]
  split
  · obtain ⟨v, hv, h0, h1, hnear⟩ := Profile.held_fraction_near ha x (raw.axes.get (Profile.axisSlot x))
    have hmax : RawState.position (raw.axes.get (Profile.axisSlot x)) ≤ 65535 := Nat.min_le_left ..
    rw [axisWord_near ha ho hv h0 h1 (by omega) (by omega) hnear]
    rfl
  · -- only triggers are left out, and they rest at zero
    rename_i hread
    have htrigger : x.neutral = .zero := by cases p <;> cases x <;> first | rfl | exact absurd rfl hread
    rw [htrigger, axisWord_near ha ho (v := 0) (n := 0) rfl le_rfl zero_le_one le_rfl (by omega) (by norm_num)]
    rfl

/-- An object shows the control it reads, and nothing if it reads none. -/
theorem objectBytes_translate (ha : a.Reliable) (ho : o.ReadsOwnKind) (hprops : o.kind.isAxis = true → o.Unadjusted)
    (p : Profile) (raw : RawState) :
    objectBytes o (p.translate raw) = (o.control.map (p.report raw)).getD [] := by
  unfold DeviceObject.ReadsOwnKind at ho
  unfold objectBytes
  cases hk : o.kind <;> rw [hk] at ho hprops
  case absoluteAxis | relativeAxis =>
    obtain ⟨x, hx⟩ := ho
    simp only [hx, axisWord_translate ha (hprops rfl), Option.map_some, Option.getD_some, Profile.report]
  case pushButton | toggleButton =>
    obtain ⟨b, hb⟩ := ho
    simp only [hb, Profile.button_translate, Option.map_some, Option.getD_some, Profile.report]
  case pov => simp only [ho, Profile.hat_translate, Option.map_some, Option.getD_some, Profile.report]
  case collection => simp only [ho, Option.map_none, Option.getD_none]

theorem write_translate (ha : a.Reliable) (hread : ∀ o ∈ objects, o.ReadsOwnKind)
    (hprops : ∀ o ∈ objects, o.kind.isAxis = true → o.Unadjusted) (p : Profile) (raw : RawState) (m : Mapping) :
    m.write objects (p.translate raw) =
      (m.offset.toNat, ((((objects.map (·.control))[m.object]?).join).map (p.report raw)).getD []) := by
  unfold Mapping.write
  rw [List.getElem?_map]
  cases ho : objects[m.object]? with
  | none => rfl
  | some o =>
    have hmem := List.mem_of_getElem? ho
    simp [objectBytes_translate ha (hread o hmem) (hprops o hmem)]

end

/-! ## the agreement -/

/-- The axes of a pad in the order of their slots. -/
def Axis.padOrder : List Axis := [.leftStickX, .leftStickY, .rightStickX, .leftTrigger, .rightTrigger, .rightStickY]

/-- Offsets of the joystick format with what the standard layout has there. -/
def Control.joystickOffsets : List (Nat × Control) :=
  (Axis.padOrder.mapIdx fun k x => (4 * k, .axis x)) ++ [(32, .hat)]
    ++ Button.padOrder.mapIdx fun k b => (48 + k, .button b)

/-- What a session agrees on when it asks for the joystick format on the standard layout. -/
def Agreement.joystick : Agreement where
  dataSize := 80
  mappings :=
    [⟨0, 0⟩, ⟨1, 4⟩, ⟨2, 8⟩, ⟨4, 12⟩, ⟨5, 16⟩, ⟨3, 20⟩, ⟨20, 32⟩]
      ++ (List.range 14).map fun i => ⟨6 + i, .ofNat (48 + i)⟩
  fixups := [⟨36, Hat.centred⟩, ⟨40, Hat.centred⟩, ⟨44, Hat.centred⟩]

theorem negotiate_joystick :
    (Catalog.ofLayout .standard).negotiate .joystick =
      .ok (.joystick, (Catalog.ofLayout .standard).mark Agreement.joystick.taken) := by
  decide +kernel

theorem controls_joystick :
    Agreement.joystick.mappings.map (fun m => (m.offset.toNat, ((Layout.standard.objects.map (·.control))[m.object]?).join))
      = Control.joystickOffsets.map fun x => (x.1, some x.2) := by
  decide +kernel

/-! ## the state -/

/-- A pad's state as the joystick format has it: its six axes, no sliders, its first hat and three centred ones, its
buttons. A compact pad has no triggers and no trackpad. -/
def Profile.joystickState (p : Profile) (raw : RawState) : List UInt8 :=
  ((List.finRange 6).flatMap fun k : Fin 6 =>
      wordBytes (if p = .compact ∧ (k.val = 3 ∨ k.val = 4) then 0 else .ofNat (RawState.position (raw.axes.get k))))
    ++ List.replicate 8 (0 : UInt8)
    ++ wordBytes (if raw.povs[0]! ∈ Hat.directions then raw.povs[0]! else 0xFFFFFFFF)
    ++ wordBytes 0xFFFFFFFF ++ wordBytes 0xFFFFFFFF ++ wordBytes 0xFFFFFFFF
    ++ (((List.finRange 32).take 14).map fun k : Fin 32 =>
      if p = .compact ∧ k.val = 13 then (0 : UInt8) else if raw.buttons.get k != 0 then 0x80 else 0)
    ++ List.replicate 18 0

/-- No two writes meet, so nothing depends on the constants being written last. -/
theorem writeAll_layout {axes constants : List (List UInt8)} {hat buttons : List UInt8}
    (haxes : axes.flatten.length = 24) (hhat : hat.length = 4) (hbuttons : buttons.length = 14)
    (hconstants : constants.flatten.length = 12) :
    writeAll (List.replicate 80 0)
        (consecutive 0 axes ++ consecutive 32 [hat] ++ consecutive 48 (buttons.map fun b => [b])
          ++ consecutive 36 constants) =
      axes.flatten ++ List.replicate 8 0 ++ hat ++ constants.flatten ++ buttons ++ List.replicate 18 0 := by
  have hsingle : (buttons.map fun b => [b]).flatten = buttons := by
    rw [← List.flatMap_def, List.flatMap_singleton']
  have h1 := @writeAll_consecutive [] (List.replicate 24 0) (List.replicate 56 0) 0 axes rfl haxes.symm
  have h2 := @writeAll_consecutive (axes.flatten ++ List.replicate 8 0) (List.replicate 4 0) (List.replicate 44 0) 32
    [hat] (by rw [List.length_append, haxes]; rfl) (by rw [List.flatten_singleton, hhat]; rfl)
  have h3 := @writeAll_consecutive (axes.flatten ++ List.replicate 8 0 ++ hat ++ List.replicate 12 0)
    (List.replicate 14 0) (List.replicate 18 0) 48 (buttons.map fun b => [b])
    (by simp only [List.length_append, haxes, hhat, List.length_replicate]) (by rw [hsingle, hbuttons]; rfl)
  have h4 := @writeAll_consecutive (axes.flatten ++ List.replicate 8 0 ++ hat) (List.replicate 12 0)
    (buttons ++ List.replicate 18 0) 36 constants
    (by simp only [List.length_append, haxes, hhat, List.length_replicate]) hconstants.symm
  simp only [List.append_assoc, List.replicate_append_replicate, List.nil_append, hsingle, List.flatten_singleton,
    Nat.reduceAdd] at h1 h2 h3 h4
  simp only [writeAll_append, List.append_assoc, h1, h2, h3, h4]

section

variable (p : Profile) (raw : RawState)

theorem report_axes :
    (Axis.padOrder.map fun x => p.report raw (.axis x)) =
      (List.finRange 6).map fun k : Fin 6 =>
        wordBytes (if p = .compact ∧ (k.val = 3 ∨ k.val = 4) then 0 else .ofNat (RawState.position (raw.axes.get k))) := by
  cases p <;> rfl

theorem report_buttons :
    (Button.padOrder.map fun b => p.report raw (.button b)) =
      (((List.finRange 32).take 14).map fun k : Fin 32 =>
        if p = .compact ∧ k.val = 13 then (0 : UInt8) else if raw.buttons.get k != 0 then 0x80 else 0).map
          fun b => [b] := by
  cases p <;> rfl

theorem report_offsets :
    Control.joystickOffsets.map (fun x => (x.1, p.report raw x.2)) =
      consecutive 0 (Axis.padOrder.map fun x => p.report raw (.axis x)) ++ consecutive 32 [p.report raw .hat]
        ++ consecutive 48 (Button.padOrder.map fun b => p.report raw (.button b)) := rfl

theorem writeAll_joystick :
    writeAll (List.replicate 80 0)
        (Control.joystickOffsets.map (fun x => (x.1, p.report raw x.2)) ++ Agreement.joystick.fixups.map (·.write)) =
      p.joystickState raw := by
  have hfixups : Agreement.joystick.fixups.map (·.write) =
      consecutive 36 [wordBytes 0xFFFFFFFF, wordBytes 0xFFFFFFFF, wordBytes 0xFFFFFFFF] := rfl
  rw [report_offsets, hfixups, report_axes, report_buttons, writeAll_layout rfl rfl rfl rfl, Profile.joystickState,
    List.flatMap_def]
  simp only [List.flatten_cons, List.flatten_nil, List.append_nil, List.append_assoc]
  rfl

end

end GamepadPool
