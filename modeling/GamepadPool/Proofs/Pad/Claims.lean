import GamepadPool.Pad.Scripted
import GamepadPool.Pool
/-! # Claims on pads without hardware
Only a claim takes exclusive access to a pad, and only a release gives it back, unless a hand plugs the pad in
afresh. What else is done to pads leaves all claims as they are. -/

namespace GamepadPool

namespace ScriptedPads

/-- Somebody has exclusive access to the pad. -/
def isClaimed (s : ScriptedPads) (id : PadId) : Bool := (s.find? id).any (·.isClaimed)

theorem find?_cons (key : PadId) (pad : ScriptedPad) (rest : List (PadId × ScriptedPad)) (id : PadId) :
    find? ⟨(key, pad) :: rest⟩ id = if id = key then some pad else find? ⟨rest⟩ id := by
  by_cases h : id = key
  · simp [find?, h]
  · have hne : (id == key) = false := by simpa using h
    simp [find?, List.lookup_cons, h, hne]

theorem find?_modify (s : ScriptedPads) (id : PadId) (f : ScriptedPad → ScriptedPad) (other : PadId) :
    (s.modify id f).find? other = if other = id then (s.find? other).map f else s.find? other := by
  obtain ⟨pads⟩ := s
  induction pads with
  | nil => simp [modify, find?]
  | cons p rest ih =>
    obtain ⟨key, pad⟩ := p
    have hmodify : modify ⟨(key, pad) :: rest⟩ id f =
        ⟨(key, if key = id then f pad else pad) :: (modify ⟨rest⟩ id f).pads⟩ := by
      by_cases hid : key = id <;> simp [modify, hid]
    rw [hmodify, find?_cons, find?_cons]
    by_cases hkey : other = key
    · subst hkey
      by_cases hid : other = id <;> simp [hid]
    · simpa [hkey] using ih

theorem find?_insert (id : PadId) (pad : ScriptedPad) (pads : List (PadId × ScriptedPad)) (other : PadId) :
    find? ⟨insert id pad pads⟩ other = if other = id then some pad else find? ⟨pads⟩ other := by
  induction pads with
  | nil => rw [insert, find?_cons]
  | cons p rest ih =>
    obtain ⟨key, old⟩ := p
    unfold insert
    split
    · rw [find?_cons]
    split
    · rename_i hid
      obtain rfl : id = key := hid
      rw [find?_cons, find?_cons]
      split <;> rfl
    · rename_i hid
      rw [find?_cons, ih, find?_cons]
      by_cases hkey : other = key
      · subst hkey
        simp [Ne.symm hid]
      · simp [hkey]

theorem isClaimed_insert (id : PadId) (pad : ScriptedPad) (s : ScriptedPads) (other : PadId) :
    isClaimed ⟨insert id pad s.pads⟩ other = if other = id then pad.isClaimed else s.isClaimed other := by
  unfold isClaimed
  rw [find?_insert]
  split <;> rfl

/-- A change that does not touch the claim. -/
theorem isClaimed_modify {f : ScriptedPad → ScriptedPad} (hf : ∀ p, (f p).isClaimed = p.isClaimed)
    (s : ScriptedPads) (id other : PadId) : (s.modify id f).isClaimed other = s.isClaimed other := by
  unfold isClaimed
  rw [find?_modify]
  split
  · cases s.find? other <;> simp [hf]
  · rfl

theorem isClaimed_setClaim (claimed : Bool) {s : ScriptedPads} {id : PadId} {p : ScriptedPad}
    (hp : s.find? id = some p) (other : PadId) :
    (s.modify id ({ · with isClaimed := claimed })).isClaimed other =
      if other = id then claimed else s.isClaimed other := by
  unfold isClaimed
  rw [find?_modify]
  split
  · rename_i h
    subst h
    simp [hp]
  · rfl

theorem reach_ok {s : ScriptedPads} {id : PadId} {op : PadOperation} {p : ScriptedPad} (h : s.reach id op = .ok p) :
    s.find? id = some p := by
  unfold reach at h
  split at h
  · cases h
  split at h
  · cases h
  split at h
  · cases h
  · rename_i hp _ _
    rw [hp, Except.ok.inj h]

/-- Why an operation is refused: the pad is not attached, or it was told to. -/
theorem reach_error_iff (s : ScriptedPads) (id : PadId) (op : PadOperation) :
    (∃ e, s.reach id op = .error e) ↔ ∀ p, s.find? id = some p → p.isAttached = false ∨ op ∈ p.failing := by
  unfold reach
  split
  · simp [*]
  · rename_i p hp
    simp only [hp, Option.some.injEq, forall_eq']
    split
    · simp_all
    split
    · simp_all
    · simp_all

theorem release_refused_iff (s : ScriptedPads) (id : PadId) :
    (∃ e, (PadBackend.release s id).1 = .error e) ↔
      ∀ p, s.find? id = some p → p.isAttached = false ∨ .release ∈ p.failing := by
  rw [← reach_error_iff]
  have hrelease : PadBackend.release s id = s.perform id .release (fun _ => ()) ({ · with isClaimed := false }) := rfl
  rw [hrelease, perform]
  cases s.reach id .release <;> simp

theorem perform_cases {α : Type} (s : ScriptedPads) (id : PadId) (op : PadOperation) (answer : ScriptedPad → α)
    (change : ScriptedPad → ScriptedPad) :
    (∃ p, s.find? id = some p ∧ s.perform id op answer change = (.ok (answer p), s.modify id change)) ∨
      ∃ e, s.reach id op = .error e ∧ s.perform id op answer change = (.error e, s) := by
  unfold perform
  cases h : s.reach id op with
  | ok p => exact .inl ⟨p, reach_ok h, rfl⟩
  | error e => exact .inr ⟨e, rfl, rfl⟩

/-- An operation that does not touch the claim. -/
theorem isClaimed_perform {α : Type} (s : ScriptedPads) (id : PadId) (op : PadOperation) (answer : ScriptedPad → α)
    (change : ScriptedPad → ScriptedPad) (hchange : ∀ p, (change p).isClaimed = p.isClaimed) :
    (s.perform id op answer change).2.isClaimed = s.isClaimed := by
  rcases perform_cases s id op answer change with ⟨p, -, h⟩ | ⟨e, -, h⟩ <;> rw [h]
  exact funext (isClaimed_modify hchange s id)

theorem isClaimed_openPad (s : ScriptedPads) (id : PadId) :
    (PadBackend.openPad s id).2.isClaimed = s.isClaimed :=
  isClaimed_perform s id .openPad (fun _ => id) (fun p => { p with opens := p.opens + 1 }) fun _ => rfl

theorem isClaimed_objectCounts (s : ScriptedPads) (id : PadId) :
    (PadBackend.objectCounts s id).2.isClaimed = s.isClaimed :=
  isClaimed_perform s id .objectCounts (·.counts) (fun p => p) fun _ => rfl

theorem isClaimed_capture (s : ScriptedPads) (id : PadId) : (PadBackend.capture s id).2.isClaimed = s.isClaimed :=
  isClaimed_perform s id .capture (fun _ => ()) (fun p => p) fun _ => rfl

theorem isClaimed_poll (s : ScriptedPads) (id : PadId) : (PadBackend.poll s id).2.isClaimed = s.isClaimed :=
  isClaimed_perform s id .poll (fun _ => ()) (fun p => p) fun _ => rfl

theorem isClaimed_read (s : ScriptedPads) (id : PadId) : (PadBackend.read s id).2.isClaimed = s.isClaimed :=
  isClaimed_perform s id .read (·.raw) (fun p => p) fun _ => rfl

theorem handle_of_openPad {s after : ScriptedPads} {id h : PadId} (hopen : PadBackend.openPad s id = (.ok h, after)) :
    h = id := by
  rcases perform_cases s id .openPad (fun _ => id) fun p => { p with opens := p.opens + 1 } with
    ⟨p, -, hp⟩ | ⟨e, -, hp⟩ <;> cases hp.symm.trans hopen
  rfl

theorem isClaimed_claim (s : ScriptedPads) (id : PadId) :
    (∃ after, PadBackend.claim s id = (.ok (), after) ∧
      after.isClaimed = fun other => if other = id then true else s.isClaimed other) ∨
    ∃ e, PadBackend.claim s id = (.error e, s) := by
  rcases perform_cases s id .claim (fun _ => ()) ({ · with isClaimed := true }) with ⟨p, hp, h⟩ | ⟨e, -, h⟩
  · exact .inl ⟨_, h, funext (isClaimed_setClaim _ hp)⟩
  · exact .inr ⟨e, h⟩

/-- A release gives the claim back, or changes nothing at all. -/
theorem isClaimed_release (s : ScriptedPads) (id : PadId) :
    (∃ after, PadBackend.release s id = (.ok (), after) ∧
      after.isClaimed = fun other => if other = id then false else s.isClaimed other) ∨
    ∃ e, s.reach id .release = .error e ∧ PadBackend.release s id = (.error e, s) := by
  rcases perform_cases s id .release (fun _ => ()) ({ · with isClaimed := false }) with ⟨p, hp, h⟩ | ⟨e, he, h⟩
  · exact .inl ⟨_, h, funext (isClaimed_setClaim _ hp)⟩
  · exact .inr ⟨e, he, h⟩

/-- A pad is opened under its own name and claimed, or every claim stays as it was. -/
theorem isClaimed_prepare (s : ScriptedPads) (info : PadInfo) :
    (∃ profile after, prepare s info = (.ok (some ⟨info, profile, info.id⟩), after) ∧
      after.isClaimed = fun id => if id = info.id then true else s.isClaimed id) ∨
    ((∀ pad, (prepare s info).1 ≠ .ok (some pad)) ∧ (prepare s info).2.isClaimed = s.isClaimed) := by
  -- the claim comes last, and no step before it touches a claim
  have hopened := isClaimed_openPad s info.id
  unfold prepare
  rcases hopen : PadBackend.openPad s info.id with ⟨_ | h, s₁⟩ <;> rw [hopen] at hopened
  · exact .inr ⟨by simp, hopened⟩
  obtain rfl := handle_of_openPad hopen
  have hcounted := isClaimed_objectCounts s₁ info.id
  dsimp only
  rcases hcounts : PadBackend.objectCounts s₁ info.id with ⟨_ | counts, s₂⟩ <;> rw [hcounts] at hcounted
  · exact .inr ⟨by simp [giveUp], hcounted.trans hopened⟩
  dsimp only
  cases Profile.classify counts with
  | none => exact .inr ⟨by simp [giveUp], hcounted.trans hopened⟩
  | some profile =>
    have hcaptured := isClaimed_capture s₂ info.id
    dsimp only
    rcases hcapture : PadBackend.capture s₂ info.id with ⟨_ | _, s₃⟩ <;> rw [hcapture] at hcaptured
    · exact .inr ⟨by simp [giveUp], hcaptured.trans (hcounted.trans hopened)⟩
    have hsame : s₃.isClaimed = s.isClaimed := hcaptured.trans (hcounted.trans hopened)
    rcases isClaimed_claim s₃ info.id with ⟨after, hclaim, hafter⟩ | ⟨e, hclaim⟩
    · simp only [hclaim]
      exact .inl ⟨profile, after, rfl, by rw [hafter, hsame]⟩
    · simp only [hclaim]
      exact .inr ⟨by simp [giveUp], hsame⟩

theorem isClaimed_readPad (s : ScriptedPads) (pad : OpenPad PadId) : (readPad s pad).2.isClaimed = s.isClaimed := by
  have hpolled := isClaimed_poll s pad.handle
  unfold readPad
  rcases hpoll : PadBackend.poll s pad.handle with ⟨_ | _, s₁⟩ <;> rw [hpoll] at hpolled
  · exact hpolled
  · exact (isClaimed_read s₁ pad.handle).trans hpolled

end ScriptedPads

/-! ## hands -/

/-- What a hand does to the pads. -/
inductive HandMove where
  | attach (id : PadId) (name : String) (counts : ControlCounts)
  | detach (id : PadId)
  | reattach (id : PadId)
  | setRaw (id : PadId) (raw : RawState)
  | fail (id : PadId) (op : PadOperation)
  | recover (id : PadId) (op : PadOperation)

namespace HandMove

def apply : HandMove → ScriptedPads → ScriptedPads
  | attach id name counts, s => s.attach id name counts
  | detach id, s => s.detach id
  | reattach id, s => s.reattach id
  | setRaw id raw, s => s.setRaw id raw
  | fail id op, s => s.fail id op
  | recover id op, s => s.recover id op

/-- The pad that is plugged in afresh. -/
def plugged? : HandMove → Option PadId
  | attach id _ _ => some id
  | _ => none

/-- A pad that is plugged in afresh is not claimed; no other claim changes hands. -/
theorem isClaimed_apply (m : HandMove) (s : ScriptedPads) (id : PadId) :
    (m.apply s).isClaimed id = if m.plugged? = some id then false else s.isClaimed id := by
  cases m with
  | attach new name counts =>
    rw [apply, ScriptedPads.attach, ScriptedPads.isClaimed_insert]
    simp only [plugged?, Option.some.injEq, eq_comm]
  | detach | reattach | setRaw | recover =>
    refine ScriptedPads.isClaimed_modify ?_ ..
    exact fun _ => rfl
  | fail =>
    refine ScriptedPads.isClaimed_modify (fun p => ?_) ..
    split <;> rfl

end HandMove

end GamepadPool
