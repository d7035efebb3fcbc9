import GamepadPool.Proofs.Pool.Accounts
/-! # Where a snapshot comes from
A slot shows the last state read from the pad that is bound to it now, and rests when there is none. What an
earlier pad gave is gone with its binding. -/

namespace GamepadPool

/-- A pad, and the last state read from it since it was bound. -/
abbrev Tenancy (η : Type) := OpenPad η × Option RawState

namespace Tenancy

variable {η : Type}

/-- Who holds a slot after an event of that slot. -/
def after (now : Option (Tenancy η)) : SlotEvent η → Option (Tenancy η)
  | .bound pad => some (pad, none)
  | .read raw => now.map fun t => (t.1, some raw)
  | .released => none
  | .asked => now

/-- What a slot shows. -/
def shown [Arithmetic] : Option (Tenancy η) → Snapshot
  | some (pad, some raw) => pad.profile.translate raw
  | _ => .neutral

end Tenancy

namespace History

variable {η : Type}

/-- Who holds a slot at the end of a history that found it with `now`. -/
def tenantFrom (now : Option (Tenancy η)) (i : Nat) (h : History η) : Option (Tenancy η) :=
  h.foldl (fun now e => if e.1 = i then Tenancy.after now e.2 else now) now

/-- Who holds a slot after all that happened. -/
def tenant (h : History η) (i : Nat) : Option (Tenancy η) := tenantFrom none i h

theorem tenant_snoc (h : History η) (j : Nat) (e : SlotEvent η) (i : Nat) :
    tenant (h ++ [(j, e)]) i = if j = i then Tenancy.after (h.tenant i) e else h.tenant i := by
  simp [tenant, tenantFrom]

theorem tenant_split (before : History η) (i : Nat) (e : SlotEvent η) (later : History η) :
    tenant (before ++ (i, e) :: later) i = tenantFrom (Tenancy.after (before.tenant i) e) i later := by
  simp [tenant, tenantFrom]

/-- A state that counts in the end counted in the beginning or was read meanwhile. -/
theorem read_of_tenantFrom {now : Option (Tenancy η)} {i : Nat} {h : History η} {pad : OpenPad η} {raw : RawState}
    (ht : tenantFrom now i h = some (pad, some raw)) :
    (∃ pad, now = some (pad, some raw)) ∨ (i, .read raw) ∈ h := by
  -- over the events, with the tenant before them left open
  induction h generalizing now with
  | nil => exact .inl ⟨pad, ht⟩
  | cons e rest ih =>
    obtain ⟨j, e⟩ := e
    rcases ih ht with ⟨pad', hnow⟩ | hread
    · dsimp only at hnow
      by_cases hj : j = i
      · subst hj
        rw [if_pos rfl] at hnow
        cases e with
        | bound pad => simp [Tenancy.after] at hnow
        | read raw' =>
          obtain ⟨t, -, ht⟩ := Option.map_eq_some_iff.1 hnow
          simp only [Prod.mk.injEq, Option.some.injEq] at ht
          rw [← ht.2]
          exact .inr List.mem_cons_self
        | released => cases hnow
        | asked => exact .inl ⟨pad', hnow⟩
      · rw [if_neg hj] at hnow
        exact .inl ⟨pad', hnow⟩
    · exact .inr (List.mem_cons_of_mem _ hread)

end History

/-! ## the pool agrees with its history -/

namespace Pool

variable {η : Type} {n : Nat} {p q : Pool η}

theorem bindingOf?_eq_none {i : Nat} : p.bindingOf? i = none ↔ i ∉ p.boundSlots := by
  simp [bindingOf?, boundSlots]

/-- Unbinding ends one binding and no other. -/
theorem bindingOf?_unbind (h : p.Sound n) {b : Binding η} (hb : b ∈ p.bindings) (i : Nat) :
    (p.unbind b).bindingOf? i = if b.slot = i then none else p.bindingOf? i := by
  split
  · rename_i hi
    have hdistinct := ((perm_of_unbind hb).1.nodup_iff.1 h.slots.distinct)
    rw [bindingOf?_eq_none, ← hi]
    exact (List.nodup_cons.1 hdistinct).1
  · rename_i hi
    obtain ⟨l, c, r, hslot, -, hl, hleft⟩ := split_of_unbind hb
    have hne : (c.slot == i) = false := by simpa [hslot] using hi
    rw [bindingOf?, bindingOf?, hleft, hl]
    simp [List.find?_append, hne]

/-- A pool that shows what its history says. -/
structure Agrees [Arithmetic] (past : History η) (p : Pool η) : Prop where
  bindings : ∀ i, p.bindingOf? i = (past.tenant i).map fun t => ⟨i, t.1⟩
  inputs : ∀ i, p.inputs i = if i < p.size then some (Tenancy.shown (past.tenant i)) else none

variable [Arithmetic] {past h : History η}

theorem Agrees.inputs_of_unbound (ha : p.Agrees past) {i : Nat} (hi : i < p.size) (hbound : i ∉ p.boundSlots) :
    p.inputs i = some .neutral := by
  have hnone := bindingOf?_eq_none.2 hbound
  rw [ha.bindings i, Option.map_eq_none_iff] at hnone
  rw [ha.inputs i, if_pos hi, hnone]
  rfl

/-- A change of one slot's snapshot agrees with the event it stands for. -/
theorem Agrees.inputs_modify (ha : p.Agrees past) {j : Nat} {f : Slot → Slot} {e : SlotEvent η}
    (hq : q.slots = p.slots.modify j f)
    (hf : ∀ x, x.inputs = Tenancy.shown (past.tenant j) →
      (f x).inputs = Tenancy.shown (Tenancy.after (past.tenant j) e)) (i : Nat) :
    q.inputs i = if i < q.size then some (Tenancy.shown (History.tenant (past ++ [(j, e)]) i)) else none := by
  have hsize : q.size = p.size := by
    rw [size, hq, List.length_modify]
    rfl
  have hp := ha.inputs i
  rw [hsize, History.tenant_snoc]
  unfold Pool.inputs at hp ⊢
  rw [hq, List.getElem?_modify]
  cases hx : p.slots[i]? with
  | none =>
    rw [hx] at hp
    split at hp
    · cases hp
    · simp [*]
  | some x =>
    rw [hx] at hp
    split at hp
    · simp only [Option.map_some, Option.some.injEq] at hp
      split
      · rename_i hj
        subst hj
        simp [*]
      · simp [*]
    · cases hp

theorem Agrees.move (ha : p.Agrees past) (hs : p.Sound n) (hm : Move p h q) : q.Agrees (past ++ h) := by
  cases hm with
  | join pad fresh =>
    rw [List.append_nil]
    exact ⟨ha.bindings, ha.inputs⟩
  | @bind i pad free before after hfree hpad =>
    refine ⟨?_, ha.inputs_modify rfl fun _ _ => rfl⟩
    intro k
    -- the slot was free, so the new binding is the first one found for it
    have hunbound : i ∉ p.boundSlots := hs.slots.disjoint i (by simp [hfree])
    rw [History.tenant_snoc]
    split
    · rename_i hk
      subst hk
      have hnone := bindingOf?_eq_none.2 hunbound
      unfold bindingOf? at hnone ⊢
      simp [List.find?_append, hnone, Tenancy.after]
    · rename_i hk
      rw [← ha.bindings k]
      simp [bindingOf?, List.find?_append, hk]
  | @read b hb raw =>
    obtain ⟨t, ht, hbt⟩ := Option.map_eq_some_iff.1 ((ha.bindings b.slot).symm.trans hb)
    refine ⟨?_, ha.inputs_modify rfl fun _ _ => ?_⟩
    · intro k
      rw [History.tenant_snoc]
      split
      · rename_i hk
        subst hk
        rw [ht]
        exact hb.trans (congrArg some hbt.symm)
      · exact ha.bindings k
    · rw [ht, ← hbt]
      rfl
  | @dissolve b hb =>
    -- only a slot that is not free already is put at rest
    refine ⟨?_, ha.inputs_modify (unbind_of_bound (hs.not_free hb)).2 fun _ _ => rfl⟩
    intro k
    rw [History.tenant_snoc, bindingOf?_unbind hs hb]
    split
    · rfl
    · exact ha.bindings k
  | drop hpad =>
    rw [List.append_nil]
    exact ⟨ha.bindings, ha.inputs⟩
  | ask i =>
    refine ⟨?_, ha.inputs_modify rfl fun _ hx => hx⟩
    intro k
    rw [History.tenant_snoc]
    split
    · rename_i hk
      subst hk
      exact ha.bindings i
    · exact ha.bindings k

theorem agrees_ofCount : (ofCount n : Pool η).Agrees [] where
  bindings _ := rfl
  inputs i := by
    simp only [inputs, ofCount, size, List.getElem?_replicate, List.length_replicate]
    split <;> rfl

theorem Moves.agrees (hm : Moves p h q) (hs : p.Sound n) (ha : p.Agrees past) : q.Agrees (past ++ h) :=
  (hm.keeps (fun past p => p.Sound n ∧ p.Agrees past)
    (fun _ _ _ _ hstep hp => ⟨hstep.sound hp.1, hp.2.move hp.1 hstep⟩) past ⟨hs, ha⟩).2

end Pool

/-- After any run over any backend, slot `i` shows the last state read from the pad that is bound to it now, by
that pad's profile, and rests while it is free or unread. What is shown after a binding or a release was read
after it. -/
theorem PadSource.inputs_of_run {β η : Type} [PadBackend β η] [Arithmetic] (n : Nat) (b : β)
    (calls : List (PadCall β)) (i : Nat) :
    let s := (ofCount n b).run calls
    let h := (ofCount n b).history calls
    SnapshotSource.inputs s i = (if i < n then some (Tenancy.shown (h.tenant i)) else none) ∧
      s.pool.bindingOf? i = (h.tenant i).map (fun t => ⟨i, t.1⟩) ∧
      (i ∈ s.pool.free → h.tenant i = none) ∧
      ∀ before e later, h = before ++ (i, e) :: later → (e = .released ∨ ∃ pad, e = .bound pad) →
        ∀ pad raw, h.tenant i = some (pad, some raw) → (i, .read raw) ∈ later := by
  intro s h
  have hm := run_moves (ofCount n b) calls
  have hs : s.pool.Sound n := hm.sound Pool.sound_ofCount
  have ha : s.pool.Agrees h := hm.agrees Pool.sound_ofCount Pool.agrees_ofCount
  refine ⟨?_, ha.bindings i, ?_, ?_⟩
  · rw [← hs.size]
    exact ha.inputs i
  · intro hi
    have hnone := Pool.bindingOf?_eq_none.2 (hs.slots.disjoint i hi)
    rw [ha.bindings i, Option.map_eq_none_iff] at hnone
    exact hnone
  · intro before e later hsplit he pad raw ht
    rw [hsplit, History.tenant_split] at ht
    rcases History.read_of_tenantFrom ht with ⟨pad', hnow⟩ | hread
    · rcases he with rfl | ⟨pad'', rfl⟩ <;> simp [Tenancy.after] at hnow
    · exact hread

end GamepadPool
