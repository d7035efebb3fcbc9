import GamepadPool.Proofs.Pool.Moves
/-! # Runs of calls on a pool of pads
A run is any sequence of calls, each carried out to its end, while the hardware behind the backend goes on as it
likes. The history of a run says when a slot was bound, read and released; `run_moves` shows that the pool makes
exactly the moves its history tells. -/

namespace GamepadPool

/-- A call on a pool, or a turn of the hardware. -/
inductive PadCall (β : Type) where
  | scan
  | refresh (slot : Nat)
  | release (slot : Nat)
  | releaseAll
  /-- Refreshes every slot. -/
  | update
  /-- Refreshes the slot a session polls. -/
  | updateOne (slot : Nat)
  | takeLoss (slot : Nat)
  /-- Pads are plugged, unplugged, moved and start to fail. -/
  | hardware (backend : β)

namespace PadSource

variable {β η : Type} [PadBackend β η] [Arithmetic]

def perform (s : PadSource β η) : PadCall β → PadSource β η
  | .scan => s.scan.2
  | .refresh i => (s.refresh i).2
  | .release i => (s.release i).2
  | .releaseAll => s.dissolveAll
  | .update => SnapshotSource.update s
  | .updateOne i => SnapshotSource.refreshOne s i
  | .takeLoss i => (SnapshotSource.takeLoss s i).2
  | .hardware b => { s with backend := b }

def run (s : PadSource β η) (calls : List (PadCall β)) : PadSource β η := calls.foldl perform s

/-! ## histories -/

/-- A refresh that answers `updated` took over the state its pad gave. -/
def refreshHistory (s : PadSource β η) (i : Nat) : History η :=
  match (s.refresh i).1, s.pool.bindingOf? i with
  | .ok .updated, some b =>
    match (readPad s.backend b.pad).1 with
    | .ok raw => [(i, .read raw)]
    | .error _ => []
  | .ok .released, _ => [(i, .released)]
  | _, _ => []

def refreshAllHistory (s : PadSource β η) : List Nat → History η
  | [] => []
  | i :: rest => s.refreshHistory i ++ (s.refresh i).2.refreshAllHistory rest

def releaseHistory (s : PadSource β η) (i : Nat) : History η :=
  match (s.release i).1 with
  | .ok true => [(i, .released)]
  | _ => []

/-- What a call does to slots, told from its answer and the bindings around it. -/
def callHistory (s : PadSource β η) : PadCall β → History η
  | .scan => (s.scan.2.pool.bindings.drop s.pool.bindings.length).map Binding.event
  | .refresh i | .updateOne i => s.refreshHistory i
  | .release i => s.releaseHistory i
  | .releaseAll => s.pool.bindings.map fun b => (b.slot, .released)
  | .update => s.refreshAllHistory (List.range s.pool.size)
  | .takeLoss i => [(i, .asked)]
  | .hardware _ => []

/-- The history of a run. -/
def history (s : PadSource β η) : List (PadCall β) → History η
  | [] => []
  | c :: rest => s.callHistory c ++ (s.perform c).history rest

/-! ## one call -/

omit [Arithmetic] in
theorem info_of_prepare {b b' : β} {info : PadInfo} {pad : OpenPad η}
    (h : prepare b info = (.ok (some pad), b')) : pad.info = info := by
  unfold prepare giveUp at h
  split at h
  · simp at h
  split at h
  · simp at h
  split at h
  · simp at h
  split at h
  · simp at h
  split at h
  · simp at h
  · simp only [Prod.mk.injEq, Except.ok.injEq, Option.some.injEq] at h
    rw [← h.1]

theorem adopt_gains (s : PadSource β η) (report : ScanTally) (info : PadInfo) :
    s.pool.Gains (s.adopt report info).1.pool := by
  unfold adopt
  split
  · exact .refl _
  rename_i hnew
  simp only [List.contains_iff_mem] at hnew
  split
  · rename_i pad b hprep
    rw [← info_of_prepare hprep] at hnew ⊢
    have hjoin : s.pool.Gains
        { s.pool with openIds := s.pool.openIds ++ [pad.info.id], pending := s.pool.pending ++ [pad] } :=
      ⟨[], .single (.join s.pool pad hnew), by simp⟩
    have hplace := Pool.place_gains { s.pool with openIds := s.pool.openIds ++ [pad.info.id] } pad []
    simp only [List.append_nil] at hplace
    exact hjoin.trans hplace
  · exact .refl _
  · exact .refl _

theorem adoptAll_gains (s : PadSource β η) (report : ScanTally) (attached : List PadInfo) :
    s.pool.Gains (s.adoptAll report attached).1.pool := by
  induction attached generalizing s report with
  | nil => exact .refl _
  | cons info rest ih => exact (adopt_gains s report info).trans (ih _ _)

/-- A scan only binds pads; none that was bound loses its slot. -/
theorem scan_gains (s : PadSource β η) : s.pool.Gains s.scan.2.pool := by
  have hqueue := Pool.placeAll_gains { s.pool with pending := [] } s.pool.pending
  simp only [List.nil_append] at hqueue
  refine hqueue.trans ?_
  unfold scan
  dsimp only
  split
  · exact .refl _
  · rename_i attached b _
    exact adoptAll_gains ⟨_, b⟩ _ attached

theorem refresh_cases (s : PadSource β η) (i : Nat) :
    (s.pool.size ≤ i ∧ s.refresh i = (.error ⟨i⟩, s)) ∨
    (i < s.pool.size ∧ s.pool.bindingOf? i = none ∧ s.refresh i = (.ok .unassigned, s)) ∨
    (∃ b raw backend, i < s.pool.size ∧ s.pool.bindingOf? i = some b ∧
      readPad s.backend b.pad = (.ok raw, backend) ∧
      s.refresh i = (.ok .updated,
        ⟨s.pool.modifySlot i fun x => { x with inputs := b.pad.profile.translate raw }, backend⟩)) ∨
    (∃ b e backend, i < s.pool.size ∧ s.pool.bindingOf? i = some b ∧
      readPad s.backend b.pad = (.error e, backend) ∧
      s.refresh i = (.ok .released, dissolve { s with backend := backend } b)) := by
  unfold refresh
  split
  · exact .inl ⟨‹_›, rfl⟩
  have hi : i < s.pool.size := by omega
  split
  · exact .inr (.inl ⟨hi, ‹_›, rfl⟩)
  split
  · exact .inr (.inr (.inl ⟨_, _, _, hi, ‹_›, ‹_›, rfl⟩))
  · exact .inr (.inr (.inr ⟨_, _, _, hi, ‹_›, ‹_›, rfl⟩))

omit [Arithmetic] in
theorem release_cases (s : PadSource β η) (i : Nat) :
    (s.pool.size ≤ i ∧ s.release i = (.error ⟨i⟩, s)) ∨
    (i < s.pool.size ∧ s.pool.bindingOf? i = none ∧ s.release i = (.ok false, s)) ∨
    (∃ b, i < s.pool.size ∧ s.pool.bindingOf? i = some b ∧ s.release i = (.ok true, s.dissolve b)) := by
  unfold release
  split
  · exact .inl ⟨‹_›, rfl⟩
  have hi : i < s.pool.size := by omega
  split
  · exact .inr (.inl ⟨hi, ‹_›, rfl⟩)
  · exact .inr (.inr ⟨_, hi, ‹_›, rfl⟩)

theorem refresh_moves (s : PadSource β η) (i : Nat) :
    s.pool.Moves (s.refreshHistory i) (s.refresh i).2.pool := by
  unfold refreshHistory
  rcases refresh_cases s i with
    ⟨-, h⟩ | ⟨-, hb, h⟩ | ⟨b, raw, backend, -, hb, hread, h⟩ | ⟨b, e, backend, -, hb, -, h⟩
  · rw [h]
    exact .refl _
  · rw [h, hb]
    exact .refl _
  · obtain rfl := Pool.slot_of_bindingOf? hb
    simp only [h, hb, hread]
    exact .single (.read s.pool hb raw)
  · obtain rfl := Pool.slot_of_bindingOf? hb
    simp only [h, hb]
    exact .single (.dissolve s.pool (Pool.mem_of_bindingOf? hb))

theorem refreshAll_moves (s : PadSource β η) (slots : List Nat) :
    s.pool.Moves (s.refreshAllHistory slots) (slots.foldl (fun s i => (s.refresh i).2) s).pool := by
  induction slots generalizing s with
  | nil => exact .refl _
  | cons i rest ih => exact (refresh_moves s i).trans (ih _)

theorem release_moves (s : PadSource β η) (i : Nat) :
    s.pool.Moves (s.releaseHistory i) (s.release i).2.pool := by
  unfold releaseHistory
  rcases release_cases s i with ⟨-, h⟩ | ⟨-, -, h⟩ | ⟨b, -, hb, h⟩
  · rw [h]
    exact .refl _
  · rw [h]
    exact .refl _
  · obtain rfl := Pool.slot_of_bindingOf? hb
    simp only [h]
    exact .single (.dissolve s.pool (Pool.mem_of_bindingOf? hb))

/-- Bindings are undone in their order, each the first one when its turn comes. -/
theorem dissolve_moves (s : PadSource β η) (bs : List (Binding η)) (h : s.pool.bindings = bs) :
    s.pool.Moves (bs.map fun b => (b.slot, .released)) (bs.foldl dissolve s).pool ∧
      (bs.foldl dissolve s).pool.pending = s.pool.pending ∧ (bs.foldl dissolve s).pool.bindings = [] := by
  induction bs generalizing s with
  | nil => exact ⟨.refl _, rfl, h⟩
  | cons b rest ih =>
    have hrest : (s.dissolve b).pool.bindings = rest := by
      simp [dissolve, h]
    obtain ⟨hm, hpending, hbindings⟩ := ih (s.dissolve b) hrest
    have hb : b ∈ s.pool.bindings := by simp [h]
    refine ⟨.step (.dissolve s.pool hb) hm, ?_, hbindings⟩
    rw [List.foldl_cons, hpending]
    simp [dissolve]

theorem releasePending_moves (s : PadSource β η) (waiting : List (OpenPad η)) :
    Pool.Moves { s.pool with pending := waiting } []
      { (waiting.foldl releasePending s).pool with pending := [] } := by
  -- the queue is emptied only at the very end, so the pads still waiting are told apart from it
  induction waiting generalizing s with
  | nil => exact .refl _
  | cons pad rest ih =>
    exact .step (.drop { s.pool with pending := pad :: rest } rfl) (ih (s.releasePending pad))

theorem dissolveAll_moves (s : PadSource β η) :
    s.pool.Moves (s.callHistory .releaseAll) s.dissolveAll.pool := by
  obtain ⟨hbound, hpending, -⟩ := dissolve_moves s s.pool.bindings rfl
  have hwaiting := releasePending_moves (s.pool.bindings.foldl dissolve s) s.pool.pending
  rw [← hpending] at hwaiting
  have := hbound.trans hwaiting
  rwa [List.append_nil, hpending] at this

/-! ## whole runs -/

theorem perform_moves (s : PadSource β η) (c : PadCall β) :
    s.pool.Moves (s.callHistory c) (s.perform c).pool := by
  cases c with
  | scan =>
    obtain ⟨new, hm, hb⟩ := scan_gains s
    simp only [callHistory, perform, hb, List.drop_left]
    exact hm
  | refresh i => exact refresh_moves s i
  | release i => exact release_moves s i
  | releaseAll => exact dissolveAll_moves s
  | update => exact refreshAll_moves s _
  | updateOne i => exact refresh_moves s i
  | takeLoss i => exact .single (.ask s.pool i)
  | hardware b => exact .refl _

theorem run_moves (s : PadSource β η) (calls : List (PadCall β)) :
    s.pool.Moves (s.history calls) (s.run calls).pool := by
  induction calls generalizing s with
  | nil => exact .refl _
  | cons c rest ih => exact (perform_moves s c).trans (ih (s.perform c))

end PadSource
end GamepadPool
