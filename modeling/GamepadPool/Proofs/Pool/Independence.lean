import GamepadPool.Number.Binary
import GamepadPool.Proofs.Pad.Steadiness
import GamepadPool.Proofs.Pool.Provenance
import Mathlib.Data.List.Sort
/-! # Slots do not disturb one another
A call on a slot answers and acts by what that slot shows, and changes nothing that another slot shows. So calls on
two slots may be made in either order. -/

namespace GamepadPool

/-! ## changes of two slots -/

namespace Pool

variable {η : Type} {n i j : Nat} {p : Pool η} {b c : Binding η}

theorem insertFree_comm {free : List Nat} (h : free.Pairwise (· < ·)) (hij : i ≠ j) (hi : i ∉ free)
    (hj : j ∉ free) :
    insertFree i (insertFree j free) = insertFree j (insertFree i free) := by
  have hi' : i ∉ insertFree j free := by simp [mem_insertFree, hij, hi]
  have hj' : j ∉ insertFree i free := by simp [mem_insertFree, hij.symm, hj]
  refine (insertFree_ascending (insertFree_ascending h hj) hi').eq_of_mem_iff
    (insertFree_ascending (insertFree_ascending h hi) hj') fun k => ?_
  simp only [mem_insertFree]
  exact or_left_comm

theorem modifySlot_comm (hij : i ≠ j) (f g : Slot → Slot) :
    (p.modifySlot i f).modifySlot j g = (p.modifySlot j g).modifySlot i f := by
  simp only [modifySlot, List.modify_modify_ne f g p.slots hij]

theorem modifySlot_unbind (hi : i ≠ b.slot) (f : Slot → Slot) :
    (p.unbind b).modifySlot i f = (p.modifySlot i f).unbind b := by
  unfold unbind vacate
  split <;> rename_i hfree
  · rw [if_pos (by exact hfree)]
    rfl
  · rw [if_neg (by exact hfree)]
    simp only [modifySlot, List.modify_modify_ne _ f p.slots hi.symm]

/-- Unbinding, told in full. -/
theorem unbind_eq (hb : b.slot ∉ p.free) :
    p.unbind b =
      { slots := p.slots.modify b.slot fun _ => ⟨.neutral, true⟩
        free := insertFree b.slot p.free
        bindings := p.bindings.eraseP fun x => x.slot == b.slot && x.pad.info.id == b.pad.info.id
        pending := p.pending
        openIds := p.openIds.filter (· != b.pad.info.id) } := by
  unfold unbind vacate
  rw [if_neg (by simpa using hb)]
  rfl

theorem unbind_comm (h : p.Sound n) (hb : b ∈ p.bindings) (hc : c ∈ p.bindings) (hne : b.slot ≠ c.slot) :
    (p.unbind b).unbind c = (p.unbind c).unbind b := by
  have hbfree := h.not_free hb
  have hcfree := h.not_free hc
  have hb' : b.slot ∉ (p.unbind c).free := by
    rw [(unbind_of_bound hcfree).1]
    simp [mem_insertFree, hne, hbfree]
  have hc' : c.slot ∉ (p.unbind b).free := by
    rw [(unbind_of_bound hbfree).1]
    simp [mem_insertFree, hne.symm, hcfree]
  rw [unbind_eq hb', unbind_eq hc', unbind_eq hbfree, unbind_eq hcfree]
  simp only [mk.injEq]
  refine ⟨?_, ?_, ?_, trivial, ?_⟩
  · exact List.modify_modify_ne _ _ p.slots hne
  · exact insertFree_comm h.slots.ascending hne.symm hcfree hbfree
  · refine List.eraseP_comm fun x _ => ?_
    by_cases hx : x.slot = b.slot
    · exact .inr (by simp [hx, hne])
    · exact .inl (by simp [hx])
  · exact List.filter_comm _ _ p.openIds

end Pool

/-! ## calls on one slot -/

/-- A call that names a slot. -/
inductive SlotCall where
  | refresh
  /-- The refresh before a poll, which answers nothing. -/
  | updateOne
  | release
  | takeLoss
deriving DecidableEq

inductive SlotAnswer where
  | refreshed (result : Except UnknownSlot RefreshResult)
  | updated
  | released (result : Except UnknownSlot Bool)
  | lost (isLost : Bool)
deriving DecidableEq

/-- What a call may do to its slot. -/
inductive SlotChange (η : Type) where
  | adjust (f : Slot → Slot)
  | dissolve (b : Binding η)

/-- What decides about a call on a slot. -/
structure SlotView (η : Type) where
  size : Nat
  slot : Option Slot
  binding : Option (Binding η)
  /-- What reading the pad of the binding would give. -/
  reading : Option (Except PadError RawState)

namespace SlotView

variable {η : Type} [Arithmetic]

def refresh (v : SlotView η) (i : Nat) : Except UnknownSlot RefreshResult × SlotChange η :=
  if v.size ≤ i then (.error ⟨i⟩, .adjust id)
  else
    match v.binding, v.reading with
    | some b, some (.ok raw) => (.ok .updated, .adjust fun x => { x with inputs := b.pad.profile.translate raw })
    | some b, _ => (.ok .released, .dissolve b)
    | none, _ => (.ok .unassigned, .adjust id)

/-- What a call on slot `i` answers and does, told from the slot alone. -/
def outcome (v : SlotView η) (i : Nat) : SlotCall → SlotAnswer × SlotChange η
  | .refresh => (v.refresh i).map .refreshed id
  | .updateOne => (.updated, (v.refresh i).2)
  | .release =>
    if v.size ≤ i then (.released (.error ⟨i⟩), .adjust id)
    else
      match v.binding with
      | some b => (.released (.ok true), .dissolve b)
      | none => (.released (.ok false), .adjust id)
  | .takeLoss => (.lost ((v.slot.map (·.isLost)).getD false), .adjust fun x => { x with isLost := false })

/-- Only what is bound to a slot is given up. -/
theorem binding_of_outcome {v : SlotView η} {i : Nat} {c : SlotCall} {b : Binding η}
    (h : (v.outcome i c).2 = .dissolve b) : v.binding = some b := by
  have hrefresh (h : (v.refresh i).2 = .dissolve b) : v.binding = some b := by
    unfold refresh at h
    split at h
    · cases h
    split at h <;> simp_all
  cases c with
  | refresh | updateOne => exact hrefresh h
  | release =>
    simp only [outcome] at h
    split at h
    · cases h
    split at h <;> simp_all
  | takeLoss => cases h

end SlotView

namespace PadSource

section
variable {β η : Type} [PadBackend β η]

def callSlot [Arithmetic] (s : PadSource β η) (i : Nat) : SlotCall → SlotAnswer × PadSource β η
  | .refresh => (s.refresh i).map .refreshed id
  | .updateOne => (.updated, SnapshotSource.refreshOne s i)
  | .release => (s.release i).map .released id
  | .takeLoss => (SnapshotSource.takeLoss s i).map .lost id

def change (s : PadSource β η) (i : Nat) : SlotChange η → PadSource β η
  | .adjust f => { s with pool := s.pool.modifySlot i f }
  | .dissolve b => s.dissolve b

def slotView (s : PadSource β η) (i : Nat) : SlotView η where
  size := s.pool.size
  slot := s.pool.slots[i]?
  binding := s.pool.bindingOf? i
  reading := (s.pool.bindingOf? i).map fun b => (readPad s.backend b.pad).1

theorem change_adjust_id (s : PadSource β η) (i : Nat) : s.change i (.adjust id) = s := by
  simp [change, Pool.modifySlot]

theorem callSlot_of_unknown [Arithmetic] (s : PadSource β η) {i : Nat} (h : s.pool.size ≤ i) (c : SlotCall) :
    (s.callSlot i c).2 = s := by
  have hrefresh : (s.refresh i).2 = s := by
    unfold refresh
    rw [if_pos h]
  cases c with
  | refresh | updateOne => exact hrefresh
  | release =>
    simp only [callSlot, release, if_pos h]
    rfl
  | takeLoss =>
    have hslots := List.modify_eq_self h (f := fun x => { x with isLost := false })
    simp [callSlot, SnapshotSource.takeLoss, Pool.takeLoss, Pool.modifySlot, hslots]

end

/-! ## a call sees its own slot only -/

theorem refresh_eq [Arithmetic] (s : PadSource ScriptedPads PadId) (i : Nat) :
    s.refresh i = ((s.slotView i).refresh i).map id (s.change i) := by
  rcases refresh_cases s i with
    ⟨hi, h⟩ | ⟨hi, hb, h⟩ | ⟨b, raw, backend, hi, hb, hread, h⟩ | ⟨b, e, backend, hi, hb, hread, h⟩ <;> rw [h]
  · simp [SlotView.refresh, slotView, hi, change_adjust_id]
  · simp [SlotView.refresh, slotView, Nat.not_le.2 hi, hb, change_adjust_id]
  · obtain rfl : backend = s.backend := (congrArg Prod.snd hread).symm.trans (ScriptedPads.backend_readPad ..)
    simp [SlotView.refresh, slotView, Nat.not_le.2 hi, hb, hread, change]
  · obtain rfl : backend = s.backend := (congrArg Prod.snd hread).symm.trans (ScriptedPads.backend_readPad ..)
    simp [SlotView.refresh, slotView, Nat.not_le.2 hi, hb, hread, change]

theorem callSlot_eq [Arithmetic] (s : PadSource ScriptedPads PadId) (i : Nat) (c : SlotCall) :
    s.callSlot i c = ((s.slotView i).outcome i c).map id (s.change i) := by
  cases c with
  | refresh =>
    rw [callSlot, refresh_eq]
    rfl
  | updateOne =>
    have hstate := congrArg Prod.snd (refresh_eq s i)
    exact Prod.ext rfl hstate
  | release =>
    rcases release_cases s i with ⟨hi, h⟩ | ⟨hi, hb, h⟩ | ⟨b, hi, hb, h⟩ <;> rw [callSlot, h]
    · simp [SlotView.outcome, slotView, hi, change_adjust_id]
    · simp [SlotView.outcome, slotView, Nat.not_le.2 hi, hb, change_adjust_id]
    · simp [SlotView.outcome, slotView, Nat.not_le.2 hi, hb, change]
  | takeLoss => rfl

/-! ## a change leaves the other slots alone -/

variable {s : PadSource ScriptedPads PadId} {n i j : Nat} {x y : SlotChange PadId}

/-- A change that the slot allows: only what is bound to it is given up. -/
def Allows (s : PadSource ScriptedPads PadId) (i : Nat) (x : SlotChange PadId) : Prop :=
  ∀ b, x = .dissolve b → s.pool.bindingOf? i = some b

theorem slotView_change (h : s.pool.Sound n) (hx : s.Allows i x) (hij : i ≠ j) :
    (s.change i x).slotView j = s.slotView j := by
  cases x with
  | adjust f =>
    have hslot : (s.pool.slots.modify i f)[j]? = s.pool.slots[j]? := List.getElem?_modify_ne f _ hij
    simp [slotView, change, Pool.modifySlot, Pool.size, Pool.bindingOf?, hslot]
  | dissolve b =>
    have hb := hx b rfl
    obtain rfl := Pool.slot_of_bindingOf? hb
    have hmem := Pool.mem_of_bindingOf? hb
    have hsize : (s.pool.unbind b).size = s.pool.size := (h.unbind hmem).size.trans h.size.symm
    have hslot : (s.pool.unbind b).slots[j]? = s.pool.slots[j]? := by
      rw [(Pool.unbind_of_bound (h.not_free hmem)).2]
      exact List.getElem?_modify_ne _ _ hij
    have hbinding : (s.pool.unbind b).bindingOf? j = s.pool.bindingOf? j := by
      rw [Pool.bindingOf?_unbind h hmem, if_neg hij]
    have hreading (pad : OpenPad PadId) :
        (readPad (releasePad s.backend b.pad) pad).1 = (readPad s.backend pad).1 :=
      (readPad_steady ScriptedPads.isSteady pad).answers (view_releasePad ScriptedPads.isSteady _ _)
    simp [slotView, change, dissolve, hsize, hslot, hbinding, hreading]

theorem change_comm (h : s.pool.Sound n) (hx : s.Allows i x) (hy : s.Allows j y) (hij : i ≠ j) :
    (s.change i x).change j y = (s.change j y).change i x := by
  have hbound {k : Nat} {b : Binding PadId} (hb : s.pool.bindingOf? k = some b) :
      b.slot = k ∧ b ∈ s.pool.bindings :=
    ⟨Pool.slot_of_bindingOf? hb, Pool.mem_of_bindingOf? hb⟩
  cases x with
  | adjust f =>
    cases y with
    | adjust g => exact congrArg (PadSource.mk · s.backend) (Pool.modifySlot_comm hij f g)
    | dissolve c =>
      obtain ⟨rfl, -⟩ := hbound (hy c rfl)
      exact congrArg (PadSource.mk · _) (Pool.modifySlot_unbind hij f).symm
  | dissolve b =>
    obtain ⟨rfl, hb⟩ := hbound (hx b rfl)
    cases y with
    | adjust g => exact congrArg (PadSource.mk · _) (Pool.modifySlot_unbind hij.symm g)
    | dissolve c =>
      obtain ⟨rfl, hc⟩ := hbound (hy c rfl)
      simp only [change, dissolve]
      rw [Pool.unbind_comm h hb hc hij, ScriptedPads.releasePad_comm]

variable [Arithmetic]

theorem allows_outcome (s : PadSource ScriptedPads PadId) (i : Nat) (c : SlotCall) :
    s.Allows i ((s.slotView i).outcome i c).2 :=
  fun _ => SlotView.binding_of_outcome

/-- After any run over pads without hardware, in whatever state these are, calls on two slots may be made in either
order: each gives the answer it gives alone, and both orders end in the same pool, lists in the same order, and in
the same pads. A call leaves what another slot shows, its binding and its flag as they are, and a call on a slot
that does not exist changes nothing. -/
theorem calls_commute (n : Nat) (pads : ScriptedPads) (calls : List (PadCall ScriptedPads)) {i j : Nat}
    (hij : i ≠ j) (c d : SlotCall) :
    let s := (ofCount n pads).run calls
    let one := s.callSlot i c
    let other := s.callSlot j d
    (one.2.callSlot j d).1 = other.1 ∧ (other.2.callSlot i c).1 = one.1 ∧
      (one.2.callSlot j d).2 = (other.2.callSlot i c).2 ∧
      one.2.pool.slots[j]? = s.pool.slots[j]? ∧ one.2.pool.bindingOf? j = s.pool.bindingOf? j ∧
      ∀ k, n ≤ k → (s.callSlot k c).2 = s := by
  intro s one other
  have hs : s.pool.Sound n := (run_moves (ofCount n pads) calls).sound Pool.sound_ofCount
  have hone : one = _ := callSlot_eq s i c
  have hother : other = _ := callSlot_eq s j d
  have hview : one.2.slotView j = s.slotView j := by
    rw [hone]
    exact slotView_change hs (allows_outcome s i c) hij
  have hview' : other.2.slotView i = s.slotView i := by
    rw [hother]
    exact slotView_change hs (allows_outcome s j d) hij.symm
  refine ⟨?_, ?_, ?_, congrArg SlotView.slot hview, congrArg SlotView.binding hview, fun k hk => ?_⟩
  · rw [callSlot_eq, hview, hother]
    rfl
  · rw [callSlot_eq, hview', hone]
    rfl
  · rw [callSlot_eq, hview, callSlot_eq, hview', hone, hother]
    exact change_comm hs (allows_outcome s i c) (allows_outcome s j d) hij
  · exact callSlot_of_unknown s (by rw [hs.size]; exact hk) c

omit [Arithmetic] in
/-- A slot whose pad was unplugged is refreshed and another one released, in either order. -/
theorem calls_commute_unplugged :
    letI : Arithmetic := .binary
    let pads := (ScriptedPads.empty.attachFull "a").attachFull "b"
    let s := (ofCount 2 pads).run [.scan, .hardware (pads.detach "a")]
    0 ≠ 1 ∧ (s.callSlot 0 .refresh).1 = .refreshed (.ok .released) ∧
      (s.callSlot 1 .release).1 = .released (.ok true) ∧
      ((s.callSlot 0 .refresh).2.callSlot 1 .release).1 = .released (.ok true) ∧
      ((s.callSlot 0 .refresh).2.callSlot 1 .release).2 = ((s.callSlot 1 .release).2.callSlot 0 .refresh).2 ∧
      ((s.callSlot 1 .release).2.callSlot 0 .refresh).2.pool.free = [0, 1] := by
  let : Arithmetic := .binary
  intro pads s
  have hboth := calls_commute 2 pads [.scan, .hardware (pads.detach "a")] (Nat.zero_ne_one) .refresh .release
  have hone : (s.callSlot 0 .refresh).1 = .refreshed (.ok .released) := by decide +kernel
  have hother : (s.callSlot 1 .release).1 = .released (.ok true) := by decide +kernel
  refine ⟨Nat.zero_ne_one, hone, hother, hboth.1.trans hother, hboth.2.2.1, ?_⟩
  decide +kernel

end PadSource
end GamepadPool
