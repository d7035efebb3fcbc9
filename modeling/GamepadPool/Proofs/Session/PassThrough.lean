import GamepadPool.Pad.Scripted
import GamepadPool.Proofs.Format.Joystick
import GamepadPool.Proofs.Pool.Calls
import GamepadPool.Proofs.Session.Consistency
import GamepadPool.Proofs.Session.Filtering
import GamepadPool.Proofs.Session.Reading
/-! # Pads show through
With nothing adjusted and nothing filtered, a session that reads the joystick format sees the pad that is bound to its
slot: every axis where it stands, the hat, and every button where the pad has it. -/

namespace GamepadPool

/-- A refresh that reads a pad shows its state in the slot. -/
theorem PadSource.snapshot_refresh [Arithmetic] {β η : Type} [PadBackend β η] {s : PadSource β η} {i : Nat}
    {b : Binding η} {raw : RawState} (hi : i < s.pool.size) (hbound : s.pool.bindingOf? i = some b)
    (hread : (readPad s.backend b.pad).1 = .ok raw) :
    (s.refresh i).1 = .ok .updated ∧
      SnapshotSource.snapshot (s.refresh i).2 i = b.pad.profile.translate raw := by
  rcases refresh_cases s i with
    ⟨hout, -⟩ | ⟨-, hfree, -⟩ | ⟨b', raw', backend, -, hb, hraw, h⟩ | ⟨b', e, backend, -, hb, herror, -⟩
  · omega
  · rw [hbound] at hfree
    cases hfree
  · obtain rfl : b = b' := Option.some.inj (hbound.symm.trans hb)
    rw [hraw] at hread
    obtain rfl : raw' = raw := Except.ok.inj hread
    obtain ⟨slot, hslot⟩ : ∃ slot, s.pool.slots[i]? = some slot := ⟨_, List.getElem?_eq_getElem hi⟩
    rw [h]
    refine ⟨rfl, ?_⟩
    have hinputs : SnapshotSource.inputs (⟨s.pool.modifySlot i fun x =>
        { x with inputs := b.pad.profile.translate raw' }, backend⟩ : PadSource β η) i =
          some (b.pad.profile.translate raw') := by
      simp [SnapshotSource.inputs, Pool.inputs, Pool.modifySlot, hslot]
    simp [SnapshotSource.snapshot, hinputs]
  · obtain rfl : b = b' := Option.some.inj (hbound.symm.trans hb)
    rw [herror] at hread
    cases hread

namespace Session

variable {l : Layout} {s : Session}

/-- The joystick format of a session with unadjusted axes renders a pad's snapshot as the pad's state. -/
theorem renderInto_joystick [a : Arithmetic] (ha : a.Reliable) (hs : s.Consistent .standard) (hready : s.Ready)
    (hfilter : s.filter.isInert = true) (hformat : s.format = some .joystick)
    (hprops : ∀ o ∈ s.catalog.objects, o.kind.isAxis = true → o.Unadjusted) (p : Profile) (raw : RawState)
    {buffer : List UInt8} (hsize : buffer.length = 80) :
    s.renderInto (p.translate raw) buffer = .ok (p.joystickState raw) := by
  have hread := hready.built.readsOwnKind
  have hagreed : buffer.length = Agreement.joystick.dataSize.toNat := hsize
  have hrender := ((hready.fits _ hformat).render_eq hread (p.translate raw) hagreed).1
  have hcontrols : s.catalog.objects.map (·.control) = Layout.standard.objects.map (·.control) := by
    have hids := congrArg (List.map ObjectIdentity.control) hs.identities
    simpa [Function.comp_def, DeviceObject.identity] using hids
  have hmappings : Agreement.joystick.mappings.map (·.write s.catalog.objects (p.translate raw)) =
      Control.joystickOffsets.map fun x => (x.1, p.report raw x.2) := by
    have hcontrols' := congrArg (List.map fun x => (x.1, (x.2.map (p.report raw)).getD [])) controls_joystick
    simp only [List.map_map, Function.comp_def, Option.map_some, Option.getD_some] at hcontrols'
    rw [← hcontrols', ← hcontrols]
    exact List.map_congr_left fun m _ => write_translate ha hread hprops p raw m
  have hwrites : Agreement.joystick.writes s.catalog.objects (p.translate raw) =
      Control.joystickOffsets.map (fun x => (x.1, p.report raw x.2)) ++ Agreement.joystick.fixups.map (·.write) := by
    rw [Agreement.writes, hmappings]
  rw [hwrites, hsize, writeAll_joystick] at hrender
  simp [renderInto, agreementFor, hformat, hagreed, StickFilter.apply_of_isInert hfilter, hrender]

theorem agreement?_joystick : Layout.standard.agreement? .joystick = some .joystick := by
  rw [Layout.agreement?, negotiate_joystick]
  rfl

variable {β η : Type} [PadBackend β η]

/-- A pad is bound to a slot, and a session on that slot filters nothing, has adjusted no axis and has last agreed on
the joystick format. Whatever the pad's state is when the slot is refreshed, the session then reads exactly that
state. -/
theorem fill_of_refresh [a : Arithmetic] (ha : a = .exact ∨ a = .binary) {pads source : PadSource β η} {i : Nat}
    {b : Binding η} {raw : RawState} (hi : i < pads.pool.size) (hbound : pads.pool.bindingOf? i = some b)
    (hread : (readPad pads.backend b.pad).1 = .ok raw) {charset : Charset} {filter : StickFilter}
    (hfilter : filter.isInert = true) {calls : List (SessionCall (PadSource β η))}
    (hlast : (formats (ofDevice i .standard charset filter, source) calls).getLast? = some .joystick)
    (hprops : ∀ o ∈ (run (ofDevice i .standard charset filter, source) calls).1.catalog.objects,
      o.kind.isAxis = true → o.Unadjusted)
    {buffer : List UInt8} (hsize : buffer.length = 80) :
    (pads.refresh i).1 = .ok .updated ∧
      (run (ofDevice i .standard charset filter, source) calls).1.fill (pads.refresh i).2 buffer =
        (.ok (), b.pad.profile.joystickState raw) := by
  obtain ⟨hupdated, hsnapshot⟩ := PadSource.snapshot_refresh hi hbound hread
  have hformat := format_of_formats i charset filter source agreement?_joystick hlast
  generalize hs : (run (ofDevice i .standard charset filter, source) calls).1 = s at hprops hformat ⊢
  have hready : s.Ready :=
    hs ▸ run_keeps (fun _ _ _ h hc => h.change hc) ⟨Catalog.built_ofLayout .standard, by simp [ofDevice]⟩ calls
  have hconsistent : s.Consistent .standard :=
    hs ▸ run_keeps (fun _ _ _ h hc => h.change hc) (consistent_ofDevice i .standard charset filter) calls
  have hkept : s.index = i ∧ s.filter = filter := by
    rw [← hs]
    refine run_keeps (P := fun s => s.index = i ∧ s.filter = filter) ?_ ⟨rfl, rfl⟩ calls
    intro s n? s' h hc
    cases hc <;> exact h
  obtain ⟨rfl, rfl⟩ := hkept
  refine ⟨hupdated, ?_⟩
  rw [fill, hsnapshot, renderInto_joystick (Arithmetic.reliable_of ha) hconsistent hready hfilter hformat hprops
    b.pad.profile raw hsize]

/-- A pad with its axes at and beyond their ends, its hat to the west and every other button held. -/
theorem fill_of_scanned_pad :
    letI : Arithmetic := .binary
    let raw : RawState :=
      ⟨#v[0, 65535, 32768, -2147483648, 2147483647, 1], #v[27000, 5, 5, 5], .ofFn fun i => .ofNat (i % 2)⟩
    let pads : PadSource ScriptedPads PadId :=
      ((PadSource.ofCount 2 ((ScriptedPads.empty.attachFull "pad").setRaw "pad" raw)).scan).2
    let s := (run (ofDevice 0 .standard .ansi .none, pads)
      [.command (.setFormat default), .command (.setFormat .joystick), .command .acquire]).1
    (pads.refresh 0).1 = .ok .updated ∧
      s.fill (pads.refresh 0).2 (List.replicate 80 7) = (.ok (), Profile.standard.joystickState raw) := by
  intro raw pads s
  exact @fill_of_refresh ScriptedPads PadId _ .binary (.inr rfl) pads pads 0 ⟨0, ⟨"pad", "Wireless Controller"⟩, .standard, "pad"⟩ raw
    (by decide +kernel) (by decide +kernel) (by decide +kernel) .ansi .none rfl _ (by decide +kernel)
    (by decide +kernel) _ rfl

end Session
end GamepadPool
