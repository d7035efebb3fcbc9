import GamepadPool.Pool
import Mathlib.Data.List.Nodup
/-! # What can happen to a pool
Whatever a backend answers, a pool changes by six kinds of moves: a pad joins, is bound, read, unbound or
dropped, or a loss is asked for. An invariant is proved move by move and then holds after any number of them. -/

namespace GamepadPool

/-- What happens to a slot. -/
inductive SlotEvent (η : Type) where
  | bound (pad : OpenPad η)
  /-- Fresh state came from the bound pad. -/
  | read (raw : RawState)
  | released
  /-- Somebody asked whether the input was lost. -/
  | asked

/-- Events by slot, in the order they happened. -/
abbrev History (η : Type) := List (Nat × SlotEvent η)

def Binding.event {η : Type} (b : Binding η) : Nat × SlotEvent η := (b.slot, .bound b.pad)

namespace Pool

variable {η : Type}

theorem place_of_full {p : Pool η} (hfree : p.free = []) (pad : OpenPad η) :
    p.place pad = ({ p with pending := p.pending ++ [pad] }, 0) := by
  unfold place bind?
  rw [hfree]

theorem place_of_free {p : Pool η} {i : Nat} {free : List Nat} (hfree : p.free = i :: free) (pad : OpenPad η) :
    p.place pad = ({ p.modifySlot i rest with free := free, bindings := p.bindings ++ [⟨i, pad⟩] }, 1) := by
  unfold place bind?
  rw [hfree]

/-! ## what unbinding leaves alone -/

@[simp] theorem bindings_vacate (p : Pool η) (i : Nat) : (p.vacate i).bindings = p.bindings := by
  unfold vacate
  split <;> rfl

@[simp] theorem pending_vacate (p : Pool η) (i : Nat) : (p.vacate i).pending = p.pending := by
  unfold vacate
  split <;> rfl

@[simp] theorem openIds_vacate (p : Pool η) (i : Nat) : (p.vacate i).openIds = p.openIds := by
  unfold vacate
  split <;> rfl

@[simp] theorem bindings_unbind (p : Pool η) (b : Binding η) :
    (p.unbind b).bindings =
      p.bindings.eraseP fun x => x.slot == b.slot && x.pad.info.id == b.pad.info.id := by
  simp [unbind]

@[simp] theorem pending_unbind (p : Pool η) (b : Binding η) : (p.unbind b).pending = p.pending := by
  simp [unbind]

@[simp] theorem openIds_unbind (p : Pool η) (b : Binding η) :
    (p.unbind b).openIds = p.openIds.filter (· != b.pad.info.id) := by
  simp [unbind]

theorem slot_of_bindingOf? {p : Pool η} {i : Nat} {b : Binding η} (h : p.bindingOf? i = some b) : b.slot = i := by
  simpa using List.find?_some h

theorem mem_of_bindingOf? {p : Pool η} {i : Nat} {b : Binding η} (h : p.bindingOf? i = some b) :
    b ∈ p.bindings :=
  List.mem_of_find?_eq_some h

variable [Arithmetic]

/-! ## moves -/

/-- One elementary change of a pool, with the events it makes. -/
inductive Move : Pool η → History η → Pool η → Prop where
  /-- A pad that is not open yet joins the queue. -/
  | join (p : Pool η) (pad : OpenPad η) (fresh : pad.info.id ∉ p.openIds) :
      Move p [] { p with openIds := p.openIds ++ [pad.info.id], pending := p.pending ++ [pad] }
  /-- A waiting pad goes to the lowest free slot, which then rests. -/
  | bind (p : Pool η) {i : Nat} {pad : OpenPad η} {free : List Nat} {before after : List (OpenPad η)}
      (hfree : p.free = i :: free) (hpad : p.pending = before ++ pad :: after) :
      Move p [(i, .bound pad)]
        { p.modifySlot i rest with
          free := free
          bindings := p.bindings ++ [⟨i, pad⟩]
          pending := before ++ after }
  | read (p : Pool η) {b : Binding η} (hb : p.bindingOf? b.slot = some b) (raw : RawState) :
      Move p [(b.slot, .read raw)]
        (p.modifySlot b.slot fun x => { x with inputs := b.pad.profile.translate raw })
  | dissolve (p : Pool η) {b : Binding η} (hb : b ∈ p.bindings) : Move p [(b.slot, .released)] (p.unbind b)
  /-- The pad that waited longest is given up. -/
  | drop (p : Pool η) {pad : OpenPad η} {rest : List (OpenPad η)} (hpad : p.pending = pad :: rest) :
      Move p [] { p with pending := rest, openIds := p.openIds.filter (· != pad.info.id) }
  | ask (p : Pool η) (i : Nat) : Move p [(i, .asked)] (p.takeLoss i).2

/-- Any number of moves, with all their events. -/
inductive Moves : Pool η → History η → Pool η → Prop where
  | refl (p : Pool η) : Moves p [] p
  | step {p q r : Pool η} {h k : History η} : Move p h q → Moves q k r → Moves p (h ++ k) r

namespace Moves

variable {p q r : Pool η} {h k : History η}

theorem single (hm : Move p h q) : Moves p h q := by
  have := Moves.step hm (.refl q)
  rwa [List.append_nil] at this

theorem trans (h₁ : Moves p h q) (h₂ : Moves q k r) : Moves p (h ++ k) r := by
  induction h₁ with
  | refl => exact h₂
  | step hm _ ih =>
    rw [List.append_assoc]
    exact .step hm (ih h₂)

/-- What every move keeps, judged with all that happened before it, holds after any moves. -/
theorem keeps (I : History η → Pool η → Prop)
    (hstep : ∀ past p h q, Move p h q → I past p → I (past ++ h) q) (hm : Moves p h q) :
    ∀ past, I past p → I (past ++ h) q := by
  induction hm with
  | refl =>
    intro past hp
    rwa [List.append_nil]
  | step hm _ ih =>
    intro past hp
    rw [← List.append_assoc]
    exact ih _ (hstep past _ _ _ hm hp)

end Moves

/-! ## binding in turn -/

/-- Moves that do nothing but bind pads. -/
def Gains (p q : Pool η) : Prop :=
  ∃ new : List (Binding η), Moves p (new.map Binding.event) q ∧ q.bindings = p.bindings ++ new

theorem Gains.refl (p : Pool η) : Gains p p := ⟨[], .refl p, by simp⟩

theorem Gains.trans {p q r : Pool η} (h₁ : Gains p q) (h₂ : Gains q r) : Gains p r := by
  obtain ⟨new₁, hm₁, hb₁⟩ := h₁
  obtain ⟨new₂, hm₂, hb₂⟩ := h₂
  refine ⟨new₁ ++ new₂, ?_, ?_⟩
  · rw [List.map_append]
    exact hm₁.trans hm₂
  · rw [hb₂, hb₁, List.append_assoc]

/-- A pad at the end of the queue is placed: bound if a slot is free, else left where it is. -/
theorem place_gains (p : Pool η) (pad : OpenPad η) (later : List (OpenPad η)) :
    Gains { p with pending := p.pending ++ pad :: later }
      { (p.place pad).1 with pending := (p.place pad).1.pending ++ later } := by
  by_cases hfull : p.free = []
  · rw [place_of_full hfull]
    simp only [List.append_assoc, List.cons_append, List.nil_append]
    exact .refl _
  · obtain ⟨i, free, hfree⟩ := List.exists_cons_of_ne_nil hfull
    rw [place_of_free hfree]
    refine ⟨[⟨i, pad⟩], ?_, rfl⟩
    exact .single (.bind { p with pending := p.pending ++ pad :: later } hfree rfl)

theorem placeAll_gains (p : Pool η) (queue : List (OpenPad η)) :
    Gains { p with pending := p.pending ++ queue } (p.placeAll queue).1 := by
  -- what is not placed yet still waits, behind what was placed back into the queue
  induction queue generalizing p with
  | nil =>
    simp only [List.append_nil, placeAll]
    exact .refl p
  | cons pad later ih => exact (place_gains p pad later).trans (ih (p.place pad).1)

end Pool
end GamepadPool
