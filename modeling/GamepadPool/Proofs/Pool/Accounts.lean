import GamepadPool.Proofs.Pool.Calls
import Mathlib.Data.List.Perm.Basic
/-! # Every slot and every open pad is accounted for
A slot is free or bound, never both and never twice; a pad that is open is bound or waits, once. Both hold after
any run of calls, whatever the backend answers and wherever a call breaks off. -/

namespace GamepadPool

/-- The slots below `n` are shared out between two lists. -/
structure SharedOut (n : Nat) (free bound : List Nat) : Prop where
  ascending : free.Pairwise (· < ·)
  distinct : bound.Nodup
  disjoint : ∀ i ∈ free, i ∉ bound
  complete : ∀ i, i ∈ free ∨ i ∈ bound ↔ i < n

/-- The open identifiers are those of the pads held, and no two pads share one. -/
structure Registered (openIds held : List PadId) : Prop where
  distinct : held.Nodup
  once : openIds.Nodup
  same : ∀ id, id ∈ openIds ↔ id ∈ held

namespace Pool

variable {η : Type}

def boundSlots (p : Pool η) : List Nat := p.bindings.map (·.slot)

/-- Identifiers of the pads bound and waiting. -/
def heldIds (p : Pool η) : List PadId := p.bindings.map (·.pad.info.id) ++ p.pending.map (·.info.id)

/-- A pool of `n` slots whose books agree. -/
structure Sound (n : Nat) (p : Pool η) : Prop where
  size : p.size = n
  slots : SharedOut n p.free p.boundSlots
  pads : Registered p.openIds p.heldIds

/-! ## the free list -/

theorem mem_insertFree {i j : Nat} {free : List Nat} : j ∈ insertFree i free ↔ j = i ∨ j ∈ free := by
  induction free with
  | nil => simp [insertFree]
  | cons k rest ih =>
    unfold insertFree
    split
    · rw [List.mem_cons, ih, List.mem_cons]
      exact or_left_comm
    · exact List.mem_cons

theorem insertFree_ascending {i : Nat} {free : List Nat} (h : free.Pairwise (· < ·)) (hi : i ∉ free) :
    (insertFree i free).Pairwise (· < ·) := by
  induction free with
  | nil => simp [insertFree]
  | cons k rest ih =>
    obtain ⟨hk, hrest⟩ := List.pairwise_cons.1 h
    simp only [List.mem_cons, not_or] at hi
    unfold insertFree
    split
    · refine List.pairwise_cons.2 ⟨?_, ih hrest hi.2⟩
      intro j hj
      rcases mem_insertFree.1 hj with rfl | hj
      · assumption
      · exact hk j hj
    · have hik : i < k := by omega
      refine List.pairwise_cons.2 ⟨?_, h⟩
      intro j hj
      rcases List.mem_cons.1 hj with rfl | hj
      · exact hik
      · exact Nat.lt_trans hik (hk j hj)

end Pool

/-! ## one slot changes hands -/

namespace SharedOut

variable {n i : Nat} {free bound rest : List Nat}

theorem perm (h : SharedOut n free bound) (hp : bound.Perm rest) : SharedOut n free rest where
  ascending := h.ascending
  distinct := hp.nodup_iff.1 h.distinct
  disjoint j hj hr := h.disjoint j hj (hp.mem_iff.2 hr)
  complete j := by rw [← hp.mem_iff, h.complete]

theorem bind (h : SharedOut n (i :: free) bound) : SharedOut n free (i :: bound) := by
  obtain ⟨hi, hfree⟩ := List.pairwise_cons.1 h.ascending
  refine ⟨hfree, ?_, ?_, ?_⟩
  · exact List.nodup_cons.2 ⟨h.disjoint i List.mem_cons_self, h.distinct⟩
  · intro j hj hb
    rcases List.mem_cons.1 hb with rfl | hb
    · exact Nat.lt_irrefl _ (hi j hj)
    · exact h.disjoint j (List.mem_cons_of_mem _ hj) hb
  · intro j
    rw [← h.complete j, List.mem_cons, List.mem_cons]
    tauto

theorem vacate (h : SharedOut n free (i :: bound)) : SharedOut n (Pool.insertFree i free) bound := by
  obtain ⟨hi, hbound⟩ := List.nodup_cons.1 h.distinct
  have hfree : i ∉ free := fun hf => h.disjoint i hf List.mem_cons_self
  refine ⟨Pool.insertFree_ascending h.ascending hfree, hbound, ?_, ?_⟩
  · intro j hj
    rcases Pool.mem_insertFree.1 hj with rfl | hj
    · exact hi
    · exact fun hb => h.disjoint j hj (List.mem_cons_of_mem _ hb)
  · intro j
    rw [← h.complete j, Pool.mem_insertFree, List.mem_cons]
    tauto

end SharedOut

/-! ## one pad comes or goes -/

namespace Registered

variable {openIds held rest : List PadId} {id : PadId}

theorem perm (h : Registered openIds held) (hp : held.Perm rest) : Registered openIds rest where
  distinct := hp.nodup_iff.1 h.distinct
  once := h.once
  same j := by rw [h.same, hp.mem_iff]

theorem enter (h : Registered openIds held) (hid : id ∉ openIds) :
    Registered (openIds ++ [id]) (held ++ [id]) := by
  have hheld : id ∉ held := fun hh => hid ((h.same id).2 hh)
  refine ⟨?_, ?_, ?_⟩
  · rw [← List.concat_eq_append]
    exact h.distinct.concat hheld
  · rw [← List.concat_eq_append]
    exact h.once.concat hid
  · intro j
    simp [h.same]

theorem leave (h : Registered openIds (id :: rest)) : Registered (openIds.filter (· != id)) rest := by
  obtain ⟨hid, hrest⟩ := List.nodup_cons.1 h.distinct
  refine ⟨hrest, h.once.filter _, ?_⟩
  intro j
  simp only [List.mem_filter, h.same, List.mem_cons, bne_iff_ne]
  constructor
  · rintro ⟨rfl | hj, hne⟩
    · exact absurd rfl hne
    · exact hj
  · intro hj
    exact ⟨.inr hj, fun he => hid (he ▸ hj)⟩

end Registered

/-! ## moves keep the books -/

namespace Pool

variable {η : Type} {n : Nat} {p : Pool η}

theorem sound_ofCount : (ofCount n : Pool η).Sound n where
  size := List.length_replicate
  slots := ⟨List.pairwise_lt_range, List.nodup_nil, by simp [boundSlots, ofCount], by simp [boundSlots, ofCount]⟩
  pads := ⟨List.nodup_nil, List.nodup_nil, by simp [heldIds, ofCount]⟩

@[simp] theorem size_modifySlot (p : Pool η) (i : Nat) (f : Slot → Slot) : (p.modifySlot i f).size = p.size := by
  simp [size, modifySlot]

/-- A change of snapshots and flags alone touches no books. -/
theorem Sound.modifySlot (h : p.Sound n) (i : Nat) (f : Slot → Slot) : (p.modifySlot i f).Sound n :=
  ⟨(size_modifySlot p i f).trans h.size, h.slots, h.pads⟩

/-- Unbinding takes out one binding, of the same slot and the same pad. -/
theorem split_of_unbind {b : Binding η} (hb : b ∈ p.bindings) :
    ∃ l c r, c.slot = b.slot ∧ c.pad.info.id = b.pad.info.id ∧ p.bindings = l ++ c :: r ∧
      (p.unbind b).bindings = l ++ r := by
  obtain ⟨c, l, r, -, hc, hl, hr⟩ := List.exists_of_eraseP
    (p := fun x => x.slot == b.slot && x.pad.info.id == b.pad.info.id) hb (by simp)
  simp only [Bool.and_eq_true, beq_iff_eq] at hc
  exact ⟨l, c, r, hc.1, hc.2, hl, by rw [bindings_unbind, hr]⟩

theorem perm_of_unbind {b : Binding η} (hb : b ∈ p.bindings) :
    p.boundSlots.Perm (b.slot :: (p.unbind b).boundSlots) ∧
      p.heldIds.Perm (b.pad.info.id :: (p.unbind b).heldIds) := by
  obtain ⟨l, c, r, hslot, hid, hl, hleft⟩ := split_of_unbind hb
  simp only [boundSlots, heldIds, hleft, pending_unbind, hl, List.map_append, List.map_cons]
  refine ⟨?_, ?_⟩
  · rw [← hslot]
    exact List.perm_middle
  · rw [← hid, ← List.cons_append]
    exact List.perm_middle.append_right _

/-- Of a bound slot, unbinding does all it is meant to do. -/
theorem unbind_of_bound {b : Binding η} (hb : b.slot ∉ p.free) :
    (p.unbind b).free = insertFree b.slot p.free ∧
      (p.unbind b).slots = p.slots.modify b.slot fun _ => ⟨.neutral, true⟩ := by
  unfold unbind vacate
  rw [if_neg (by simpa using hb)]
  exact ⟨rfl, rfl⟩

theorem Sound.not_free (h : p.Sound n) {b : Binding η} (hb : b ∈ p.bindings) : b.slot ∉ p.free :=
  fun hf => h.slots.disjoint _ hf (List.mem_map_of_mem hb)

theorem Sound.unbind (h : p.Sound n) {b : Binding η} (hb : b ∈ p.bindings) : (p.unbind b).Sound n := by
  obtain ⟨hslots, hids⟩ := perm_of_unbind hb
  obtain ⟨hfree, hstate⟩ := unbind_of_bound (h.not_free hb)
  refine ⟨?_, ?_, ?_⟩
  · rw [Pool.size, hstate, List.length_modify]
    exact h.size
  · rw [hfree]
    exact (h.slots.perm hslots).vacate
  · rw [openIds_unbind]
    exact (h.pads.perm hids).leave

variable [Arithmetic]

theorem Move.sound {q : Pool η} {k : History η} (hm : Move p k q) (h : p.Sound n) : q.Sound n := by
  cases hm with
  | join pad fresh =>
    refine ⟨h.size, h.slots, ?_⟩
    simpa [heldIds] using h.pads.enter fresh
  | @bind i pad free before after hfree hpad =>
    have hrest := h.modifySlot i rest
    refine ⟨hrest.size, ?_, ?_⟩
    · have hslots := h.slots
      rw [hfree] at hslots
      refine hslots.bind.perm ?_
      simp only [boundSlots, List.map_append, List.map_cons, List.map_nil]
      exact (List.perm_append_singleton _ _).symm
    · refine h.pads.perm ?_
      simp only [heldIds, hpad, List.map_append, List.map_cons, List.map_nil, List.append_assoc]
      exact List.Perm.append_left _ List.perm_middle
  | read hb raw => exact h.modifySlot _ _
  | dissolve hb => exact h.unbind hb
  | @drop pad later hpad =>
    refine ⟨h.size, h.slots, ?_⟩
    refine (h.pads.perm (?_ : p.heldIds.Perm (pad.info.id :: _))).leave
    simp only [heldIds, hpad, List.map_cons]
    exact List.perm_middle
  | ask i => exact h.modifySlot _ _

theorem Moves.sound {q : Pool η} {k : History η} (hm : Moves p k q) (h : p.Sound n) : q.Sound n :=
  hm.keeps (fun _ p => p.Sound n) (fun _ _ _ _ hstep hp => hstep.sound hp) [] h

end Pool

/-- In every run of a pool of `n` slots over any backend, the free list ascends, no slot is bound twice or both
bound and free, free and bound slots are together those below `n`, no two pads held share an identifier, and the
open identifiers are exactly those of the pads held. -/
theorem PadSource.sound_of_run {β η : Type} [PadBackend β η] [Arithmetic] (n : Nat) (b : β)
    (calls : List (PadCall β)) : ((ofCount n b).run calls).pool.Sound n :=
  (run_moves (ofCount n b) calls).sound Pool.sound_ofCount

end GamepadPool
