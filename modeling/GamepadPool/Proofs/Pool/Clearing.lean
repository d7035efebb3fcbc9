import GamepadPool.Proofs.Pool.Exclusive
import GamepadPool.Proofs.Pool.Losses
import Mathlib.Data.List.Induction
import Mathlib.Data.List.Sort
/-! # Clearing a pool
When everything is released, every pad that was held is released once, whatever it answers, and the pool is as good
as new, except that the slots that were bound have a loss to report. -/

namespace GamepadPool

/-! ## the log of a clearing -/

namespace Recorded

variable {β η : Type}

/-- The pads released so far, in their order. -/
def released (r : Recorded β η) : List η := (r.releases.map Prod.fst).reverse

theorem released_releasePad [PadBackend β η] (r : Recorded β η) (pad : OpenPad η) :
    (releasePad r pad).released = r.released ++ [pad.handle] :=
  List.reverse_cons

end Recorded

namespace PadSource

section
variable {β η : Type} [PadBackend β η]

/-- Pads given up one after the other are released in their order. -/
theorem released_foldl {α : Type} (pad : α → OpenPad η)
    {drop : PadSource (Recorded β η) η → α → PadSource (Recorded β η) η}
    (hdrop : ∀ s a, (drop s a).backend = releasePad s.backend (pad a)) (s : PadSource (Recorded β η) η)
    (l : List α) :
    (l.foldl drop s).backend.released = s.backend.released ++ l.map fun a => (pad a).handle := by
  induction l generalizing s with
  | nil => simp
  | cons a rest ih =>
    rw [List.foldl_cons, ih, hdrop, Recorded.released_releasePad]
    simp

theorem released_dissolveAll (s : PadSource (Recorded β η) η) :
    s.dissolveAll.backend.released = s.backend.released ++ s.pool.pads.map (·.handle) := by
  unfold dissolveAll
  dsimp only
  rw [released_foldl id (fun _ _ => rfl), released_foldl Binding.pad (fun _ _ => rfl)]
  simp [Pool.pads]

/-! ## what is left -/

theorem bindings_dissolveAll [Arithmetic] (s : PadSource β η) : s.dissolveAll.pool.bindings = [] :=
  List.foldlRecOn (motive := fun t : PadSource β η => t.pool.bindings = []) s.pool.pending releasePending
    (dissolve_moves s s.pool.bindings rfl).2.2 fun _ ht _ _ => ht

end

end PadSource

theorem SharedOut.eq_range {n : Nat} {free : List Nat} (h : SharedOut n free []) : free = List.range n :=
  h.ascending.eq_of_mem_iff List.pairwise_lt_range fun i => by simpa using h.complete i

theorem Registered.eq_nil {openIds : List PadId} (h : Registered openIds []) : openIds = [] :=
  List.eq_nil_iff_forall_not_mem.2 fun id hid => List.not_mem_nil ((h.same id).1 hid)

/-- The books of a pool that holds nothing are those of a new one. -/
theorem Pool.Sound.of_empty {η : Type} {n : Nat} {p : Pool η} (h : p.Sound n) (hbindings : p.bindings = [])
    (hpending : p.pending = []) : p.free = List.range n ∧ p.openIds = [] := by
  obtain ⟨-, hslots, hpads⟩ := h
  simp only [boundSlots, heldIds, hbindings, hpending, List.map_nil, List.append_nil] at hslots hpads
  exact ⟨hslots.eq_range, hpads.eq_nil⟩

/-- Of the slots that are released at the end, each has a loss to report. -/
theorem SlotEvent.unreported_released {η : Type} (h : History η) (slots : List Nat) (i : Nat) :
    Unreported (eventsOf (h ++ slots.map fun j => (j, .released)) i) ↔ Unreported (eventsOf h i) ∨ i ∈ slots := by
  induction slots using List.reverseRecOn with
  | nil => simp
  | append_singleton slots j ih =>
    rw [List.map_append, ← List.append_assoc, List.map_singleton, eventsOf_snoc]
    split
    · simp [unreported_snoc, *]
    · rename_i hj
      simp [ih, Ne.symm hj]

/-- After any run over any backend, and whatever releases answer, clearing the pool leaves no binding, no waiting
pad and no open identifier; every slot is free, in order, and rests; a slot has a loss to report if it had one before
or was bound. Every pad that was bound or waited is released exactly once, the bound ones first, and the log that
says so changes nothing else. -/
theorem PadSource.cleared_of_run {β η : Type} [PadBackend β η] [Arithmetic] (n : Nat) (b : β)
    (calls : List (PadCall β)) :
    let s := (ofCount n b).run calls
    let t := s.dissolveAll
    let logged : PadSource (Recorded β η) η := ⟨s.pool, .start s.backend⟩
    t.pool.bindings = [] ∧ t.pool.pending = [] ∧ t.pool.openIds = [] ∧ t.pool.free = List.range n ∧
      t.pool.size = n ∧ (∀ i < n, t.pool.inputs i = some .neutral) ∧
      (∀ i, t.pool.isLost i = true ↔ s.pool.isLost i = true ∨ i ∈ s.pool.boundSlots) ∧
      logged.dissolveAll.backend.released = s.pool.pads.map (·.handle) ∧
      logged.dissolveAll.through Recorded.backend = t := by
  intro s t logged
  have hm := run_moves (ofCount n b) calls
  have hclear : s.pool.Moves (s.pool.bindings.map fun b => (b.slot, .released)) t.pool := dissolveAll_moves s
  have hs : s.pool.Sound n := hm.sound Pool.sound_ofCount
  have ht : t.pool.Sound n := hclear.sound hs
  have hagrees := (hm.trans hclear).agrees Pool.sound_ofCount Pool.agrees_ofCount
  have hreports : ∀ k q, s.pool.Moves k q → q.Reports ((ofCount n b).history calls ++ k) := fun k q hk =>
    ((hm.trans hk).reports Pool.sound_ofCount Pool.agrees_ofCount Pool.reports_ofCount History.releasesHeld_nil).1
  have hbindings : t.pool.bindings = [] := bindings_dissolveAll s
  obtain ⟨hfree, hopen⟩ := ht.of_empty hbindings rfl
  refine ⟨hbindings, rfl, hopen, hfree, ht.size, ?_, ?_, ?_, ?_⟩
  · intro i hi
    have hunbound : i ∉ t.pool.boundSlots := by simp [Pool.boundSlots, hbindings]
    exact hagrees.inputs_of_unbound (by rw [ht.size]; exact hi) hunbound
  · intro i
    have hbefore := hreports [] s.pool (.refl _) i
    have hafter := hreports _ t.pool hclear i
    rw [List.append_nil] at hbefore
    rw [hafter, hbefore, ← SlotEvent.unreported_released, Pool.boundSlots, List.map_map]
    rfl
  · exact released_dissolveAll logged
  · exact (dissolveAll_through Recorded.respects logged).symm

end GamepadPool
