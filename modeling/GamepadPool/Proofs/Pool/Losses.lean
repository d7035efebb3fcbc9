import GamepadPool.Proofs.Entries
import GamepadPool.Proofs.Pool.Provenance
import GamepadPool.Session
/-! # A loss is reported once
The flag of a slot says that a binding of it was released and nobody has asked since. A poll refreshes its slot
before it asks, so a pad that fails in the poll itself is reported by it. -/

namespace GamepadPool

/-- A binding was released, and nobody asked after that. -/
def SlotEvent.Unreported {η : Type} (events : List (SlotEvent η)) : Prop :=
  ∃ before later, events = before ++ .released :: later ∧ .asked ∉ later

namespace History

variable {η : Type}

/-- A slot is released only while somebody holds it. -/
def ReleasesHeld (h : History η) : Prop :=
  ∀ before i later, h = before ++ (i, .released) :: later → (tenant before i).isSome = true

theorem releasesHeld_nil : ReleasesHeld ([] : History η) := by
  intro before i later h
  simp at h

theorem ReleasesHeld.snoc {h : History η} (hh : h.ReleasesHeld) {j : Nat} {e : SlotEvent η}
    (he : e = .released → (h.tenant j).isSome = true) : ReleasesHeld (h ++ [(j, e)]) := by
  intro before i later heq
  rcases split_of_snoc heq with ⟨rfl, hlast, -⟩ | ⟨later, -, hbefore⟩
  · obtain ⟨rfl, rfl⟩ := Prod.mk.inj hlast
    exact he rfl
  · exact hh before i later hbefore

end History

namespace SlotEvent

variable {η : Type} {events : List (SlotEvent η)}

theorem not_unreported_nil : ¬ Unreported ([] : List (SlotEvent η)) := by
  rintro ⟨before, later, h, -⟩
  simp at h

theorem unreported_snoc {e : SlotEvent η} :
    Unreported (events ++ [e]) ↔ e = .released ∨ (e ≠ .asked ∧ Unreported events) := by
  constructor
  · rintro ⟨before, later, h, hlater⟩
    rcases split_of_snoc h with ⟨-, he, -⟩ | ⟨later, rfl, hevents⟩
    · exact .inl he.symm
    · simp only [List.mem_append, List.mem_singleton, not_or] at hlater
      exact .inr ⟨Ne.symm hlater.2, before, later, hevents, hlater.1⟩
  · rintro (rfl | ⟨hne, before, later, rfl, hlater⟩)
    · exact ⟨events, [], rfl, by simp⟩
    · refine ⟨before, later ++ [e], by simp, ?_⟩
      simp only [List.mem_append, List.mem_singleton, not_or]
      exact ⟨hlater, Ne.symm hne⟩

end SlotEvent

/-! ## the flag tells what the history tells -/

namespace Pool

variable {η : Type} {n : Nat} {p q : Pool η}

/-- What the next question about a slot is answered. -/
def isLost (p : Pool η) (i : Nat) : Bool := ((p.slots[i]?).map (·.isLost)).getD false

theorem isLost_modify {j : Nat} {f : Slot → Slot} (hq : q.slots = p.slots.modify j f) (i : Nat) :
    q.isLost i = if j = i then ((p.slots[i]?).map fun x => (f x).isLost).getD false else p.isLost i := by
  unfold isLost
  rw [hq, List.getElem?_modify]
  split <;> cases p.slots[i]? <;> rfl

/-- The flags of a pool agree with its history. -/
def Reports (past : History η) (p : Pool η) : Prop :=
  ∀ i, p.isLost i = true ↔ SlotEvent.Unreported (eventsOf past i)

theorem reports_ofCount : (ofCount n : Pool η).Reports [] := by
  intro i
  have hfresh : (ofCount n : Pool η).isLost i = false := by
    simp only [isLost, ofCount, List.getElem?_replicate]
    split <;> rfl
  simp [hfresh, eventsOf, SlotEvent.not_unreported_nil]

variable {past h : History η}

/-- An event that is neither a release nor a question leaves its slot's flag alone. -/
theorem Reports.quiet (hr : p.Reports past) {j : Nat} {f : Slot → Slot} {e : SlotEvent η}
    (hq : q.slots = p.slots.modify j f) (hf : ∀ x, (f x).isLost = x.isLost) (hrel : e ≠ .released)
    (hask : e ≠ .asked) : q.Reports (past ++ [(j, e)]) := by
  intro i
  have hsame : q.isLost i = p.isLost i := by
    rw [isLost_modify hq]
    simp only [hf, ite_eq_right_iff]
    exact fun _ => rfl
  rw [hsame, hr i, eventsOf_snoc]
  split
  · simp [SlotEvent.unreported_snoc, hrel, hask]
  · rfl

/-- A slot that was held and is released has a loss to report. -/
theorem Reports.released (hr : p.Reports past) {j : Nat} {f : Slot → Slot} (hj : j < p.size)
    (hq : q.slots = p.slots.modify j f) (hf : ∀ x, (f x).isLost = true) :
    q.Reports (past ++ [(j, .released)]) := by
  intro i
  rw [isLost_modify hq, eventsOf_snoc]
  split
  · rename_i hi
    subst hi
    have hx : p.slots[j]? = some p.slots[j] := List.getElem?_eq_getElem hj
    simp [hx, hf, SlotEvent.unreported_snoc]
  · exact hr i

/-- A question leaves nothing to report. -/
theorem Reports.asked (hr : p.Reports past) {j : Nat} {f : Slot → Slot} (hq : q.slots = p.slots.modify j f)
    (hf : ∀ x, (f x).isLost = false) : q.Reports (past ++ [(j, .asked)]) := by
  intro i
  rw [isLost_modify hq, eventsOf_snoc]
  split
  · cases p.slots[i]? <;> simp [hf, SlotEvent.unreported_snoc]
  · exact hr i

variable [Arithmetic]

theorem Reports.move (hr : p.Reports past) (hs : p.Sound n) (hm : Move p h q) : q.Reports (past ++ h) := by
  cases hm with
  | join pad fresh =>
    rw [List.append_nil]
    exact hr
  | bind hfree hpad => exact hr.quiet rfl (fun _ => rfl) (by simp) (by simp)
  | read hb raw => exact hr.quiet rfl (fun _ => rfl) (by simp) (by simp)
  | @dissolve b hb =>
    have hlt : b.slot < p.size := by
      rw [hs.size]
      exact (hs.slots.complete _).1 (.inr (List.mem_map_of_mem hb))
    exact hr.released hlt (unbind_of_bound (hs.not_free hb)).2 fun _ => rfl
  | drop hpad =>
    rw [List.append_nil]
    exact hr
  | ask i => exact hr.asked rfl fun _ => rfl

theorem Move.releasesHeld (hm : Move p h q) (ha : p.Agrees past) (hh : past.ReleasesHeld) :
    History.ReleasesHeld (past ++ h) := by
  cases hm with
  | join | drop =>
    rw [List.append_nil]
    exact hh
  | bind | read | ask => exact hh.snoc (by simp)
  | @dissolve b hb =>
    refine hh.snoc fun _ => ?_
    have hheld : b.slot ∈ p.boundSlots := List.mem_map_of_mem hb
    have hne : p.bindingOf? b.slot ≠ none := fun hnone => bindingOf?_eq_none.1 hnone hheld
    rw [ha.bindings, ne_eq, Option.map_eq_none_iff] at hne
    exact Option.isSome_iff_ne_none.2 hne

theorem Moves.reports (hm : Moves p h q) (hs : p.Sound n) (ha : p.Agrees past) (hr : p.Reports past)
    (hh : past.ReleasesHeld) : q.Reports (past ++ h) ∧ History.ReleasesHeld (past ++ h) := by
  have hall := hm.keeps (fun past p => (p.Sound n ∧ p.Agrees past) ∧ p.Reports past ∧ past.ReleasesHeld)
    (fun past p h q hstep hp => ⟨⟨hstep.sound hp.1.1, hp.1.2.move hp.1.1 hstep⟩,
      hp.2.1.move hp.1.1 hstep, hstep.releasesHeld hp.1.2 hp.2.2⟩) past ⟨⟨hs, ha⟩, hr, hh⟩
  exact hall.2

end Pool

/-! ## sessions that poll -/

/-- A turn around a pool: a session polls, or some call is made. -/
inductive PadTurn (β : Type) where
  | poll (session : Session)
  | call (c : PadCall β)

/-- A poll refreshes the slot of its session, then asks. -/
def PadTurn.calls {β : Type} : PadTurn β → List (PadCall β)
  | poll session => [.updateOne session.index, .takeLoss session.index]
  | call c => [c]

namespace PadSource

variable {β η : Type} [PadBackend β η] [Arithmetic]

def turn (s : PadSource β η) : PadTurn β → PadSource β η
  | .poll session => (session.poll s).2
  | .call c => s.perform c

def turns (s : PadSource β η) (ts : List (PadTurn β)) : PadSource β η := ts.foldl turn s

/-- The history of a run of turns. -/
def turnHistory (s : PadSource β η) (ts : List (PadTurn β)) : History η := s.history (ts.flatMap PadTurn.calls)

/-- A poll fails exactly when the flag is up once its slot is refreshed. -/
theorem poll_eq (session : Session) (s : PadSource β η) :
    session.poll s =
      (if (s.refresh session.index).2.pool.isLost session.index then .error .inputLost else .ok (),
        s.run (PadTurn.calls (.poll session))) := by
  have hask : SnapshotSource.takeLoss (SnapshotSource.refreshOne s session.index) session.index =
      ((s.refresh session.index).2.pool.isLost session.index, s.run (PadTurn.calls (.poll session))) := rfl
  unfold Session.poll
  rw [hask]
  cases (s.refresh session.index).2.pool.isLost session.index <;> rfl

theorem turns_eq_run (s : PadSource β η) (ts : List (PadTurn β)) :
    s.turns ts = s.run (ts.flatMap PadTurn.calls) := by
  induction ts generalizing s with
  | nil => rfl
  | cons t rest ih =>
    have hone : s.turn t = s.run t.calls := by
      cases t with
      | poll session => simp [turn, poll_eq]
      | call c => rfl
    have hrest := ih (s.turn t)
    rw [hone] at hrest
    simp only [turns, List.foldl_cons, hone] at hrest ⊢
    rw [hrest, List.flatMap_cons, run, run, run, List.foldl_append]

/-- Whatever sessions and others do with a pool over any backend, its history tells who is bound to a slot, and only
bound slots are released. The question whether slot `i` lost its input is answered yes exactly if a binding of it was
released after the last such question. A poll by any session fails exactly if its slot was released since it was last
polled or asked about, the refresh of this poll included. -/
theorem lost_of_turns (n : Nat) (b : β) (ts : List (PadTurn β)) :
    let s := (ofCount n b).turns ts
    let h := (ofCount n b).turnHistory ts
    (∀ i, s.pool.bindingOf? i = (h.tenant i).map fun t => ⟨i, t.1⟩)
    ∧ h.ReleasesHeld
    ∧ (∀ i, (SnapshotSource.takeLoss s i).1 = true ↔ SlotEvent.Unreported (eventsOf h i))
    ∧ ∀ session : Session,
      let polled := h ++ s.refreshHistory session.index
      ((session.poll s).1 = .error .inputLost ↔ SlotEvent.Unreported (eventsOf polled session.index))
      ∧ ((session.poll s).1 = .ok () ↔ ¬ SlotEvent.Unreported (eventsOf polled session.index)) := by
  intro s h
  have hm : (ofCount n b).pool.Moves h s.pool := by
    have hrun := run_moves (ofCount n b) (ts.flatMap PadTurn.calls)
    rwa [← turns_eq_run] at hrun
  have hagrees : s.pool.Agrees h := hm.agrees Pool.sound_ofCount Pool.agrees_ofCount
  -- the flags agree with what has happened, after the turns and after one more refresh
  have hall : ∀ k q, s.pool.Moves k q → q.Reports (h ++ k) ∧ History.ReleasesHeld (h ++ k) := fun k q hk =>
    (hm.trans hk).reports Pool.sound_ofCount Pool.agrees_ofCount Pool.reports_ofCount History.releasesHeld_nil
  obtain ⟨hreports, hheld⟩ := hall [] s.pool (.refl _)
  rw [List.append_nil] at hreports hheld
  refine ⟨hagrees.bindings, hheld, hreports, ?_⟩
  intro session polled
  have hpolled : _ ↔ SlotEvent.Unreported (eventsOf polled session.index) :=
    (hall _ _ (s.refresh_moves session.index)).1 session.index
  rw [← hpolled, poll_eq]
  cases (s.refresh session.index).2.pool.isLost session.index <;> simp

end PadSource
end GamepadPool
