import GamepadPool.Number.Binary
import GamepadPool.Proofs.Pad.Claims
import GamepadPool.Proofs.Pool.Accounts
import GamepadPool.Proofs.Pool.Recording
/-! # Exclusive access
A pad that a pool holds open is claimed. A pad that is claimed and not open was refused when it was released last:
it was unplugged then, or told to fail. Hands may plug, unplug and break pads between any two calls. -/

namespace GamepadPool

/-- Pads without hardware, with a log of their releases. -/
abbrev LoggedPads := Recorded ScriptedPads PadId

namespace HandMove

/-- Hands leave no trace in the log. -/
def applyRecorded (m : HandMove) (r : LoggedPads) : LoggedPads :=
  { r with backend := m.apply r.backend }

theorem backend_applyRecorded (m : HandMove) (r : LoggedPads) :
    m.apply r.backend = (m.applyRecorded r).backend := rfl

end HandMove

/-- The pad that a call plugs in afresh. -/
def PadCall.plugged? : PadCall HandMove → Option PadId
  | hardware m => m.plugged?
  | _ => none

/-! ## the pool and its claims -/

namespace Pool

variable {η : Type} {p : Pool η}

/-- The pads that are bound or wait. -/
def pads (p : Pool η) : List (OpenPad η) := p.bindings.map (·.pad) ++ p.pending

theorem mem_pads_of_bindingOf? {i : Nat} {b : Binding η} (h : p.bindingOf? i = some b) : b.pad ∈ p.pads :=
  List.mem_append_left _ (List.mem_map_of_mem (mem_of_bindingOf? h))

theorem mem_pads_place {pad q : OpenPad η} (h : q ∈ (p.place pad).1.pads) : q = pad ∨ q ∈ p.pads := by
  by_cases hfull : p.free = []
  · rw [place_of_full hfull] at h
    simp only [pads, List.mem_append, List.mem_singleton] at h ⊢
    tauto
  · obtain ⟨i, free, hfree⟩ := List.exists_cons_of_ne_nil hfull
    rw [place_of_free hfree] at h
    simp only [pads, modifySlot, List.map_append, List.map_cons, List.map_nil, List.mem_append,
      List.mem_singleton] at h ⊢
    tauto

theorem openIds_place (p : Pool η) (pad : OpenPad η) : (p.place pad).1.openIds = p.openIds := by
  unfold place bind?
  cases p.free <;> rfl

theorem openIds_placeAll (p : Pool η) (queue : List (OpenPad η)) : (p.placeAll queue).1.openIds = p.openIds := by
  induction queue generalizing p with
  | nil => rfl
  | cons pad rest ih => exact (ih _).trans (openIds_place p pad)

theorem mem_pads_placeAll {queue : List (OpenPad η)} {q : OpenPad η} (h : q ∈ (p.placeAll queue).1.pads) :
    q ∈ queue ∨ q ∈ p.pads := by
  induction queue generalizing p with
  | nil => exact .inr h
  | cons pad rest ih =>
    rcases ih h with h | h
    · exact .inl (List.mem_cons_of_mem _ h)
    · rcases mem_pads_place h with rfl | h
      · exact .inl List.mem_cons_self
      · exact .inr h

theorem pads_unbind (p : Pool η) (b : Binding η) : (p.unbind b).pads ⊆ p.pads := by
  intro q hq
  rw [pads, bindings_unbind, pending_unbind] at hq
  rcases List.mem_append.1 hq with hq | hq
  · exact List.mem_append_left _ (List.map_subset _ List.eraseP_subset hq)
  · exact List.mem_append_right _ hq

end Pool

/-- A release is logged, and only takes away the claim on its own pad, unless it is refused. -/
theorem releasePad_recorded (r : LoggedPads) {pad : OpenPad PadId}
    (hnamed : pad.handle = pad.info.id) :
    ∃ answer, (releasePad r pad).releases = (pad.info.id, answer) :: r.releases ∧
      (∀ id ≠ pad.info.id, (releasePad r pad).backend.isClaimed id = r.backend.isClaimed id) ∧
      ((releasePad r pad).backend.isClaimed pad.info.id → ∃ e, answer = .error e) := by
  have hbackend : (releasePad r pad).backend = (PadBackend.release r.backend pad.info.id).2 := by
    rw [← hnamed]
    rfl
  refine ⟨(PadBackend.release r.backend pad.info.id).1, ?_, ?_⟩
  · rw [← hnamed]
    rfl
  rw [hbackend]
  rcases ScriptedPads.isClaimed_release r.backend pad.info.id with ⟨after, h, hafter⟩ | ⟨e, -, h⟩ <;> rw [h]
  · refine ⟨fun id hid => ?_, fun hclaimed => ?_⟩
    · simp only [hafter, if_neg hid]
    · simp [hafter] at hclaimed
  · exact ⟨fun _ _ => rfl, fun _ => ⟨e, rfl⟩⟩

/-- Open pads are claimed, and a claim that nobody holds was refused to be given back. -/
structure Guarded (p : Pool PadId) (r : LoggedPads) : Prop where
  /-- A pad goes by its identifier. -/
  named : ∀ pad ∈ p.pads, pad.handle = pad.info.id
  claimed : ∀ id ∈ p.openIds, r.backend.isClaimed id
  refused : ∀ id ∉ p.openIds, r.backend.isClaimed id → ∃ e, r.lastRelease? id = some (.error e)

namespace Guarded

variable {p q : Pool PadId} {r r' : LoggedPads}

theorem same (h : Guarded p r) (hpads : q.pads ⊆ p.pads) (hopen : q.openIds = p.openIds)
    (hclaims : r'.backend.isClaimed = r.backend.isClaimed) (hlog : r'.releases = r.releases) : Guarded q r' := by
  refine ⟨fun pad hpad => h.named pad (hpads hpad), ?_, ?_⟩
  · rw [hopen, hclaims]
    exact h.claimed
  · simp only [hopen, hclaims, Recorded.lastRelease?, hlog]
    exact h.refused

/-- A pad comes in, claimed. -/
theorem enter (h : Guarded p r) {pad : OpenPad PadId} (hnamed : pad.handle = pad.info.id)
    (hpads : q.pads ⊆ pad :: p.pads) (hopen : q.openIds = p.openIds ++ [pad.info.id])
    (hclaims : r'.backend.isClaimed = fun id => if id = pad.info.id then true else r.backend.isClaimed id)
    (hlog : r'.releases = r.releases) : Guarded q r' := by
  refine ⟨fun x hx => ?_, fun id hid => ?_, fun id hid hclaimed => ?_⟩
  · rcases List.mem_cons.1 (hpads hx) with rfl | hx
    · exact hnamed
    · exact h.named x hx
  · simp only [hclaims]
    split
    · rfl
    · rename_i hne
      rw [hopen] at hid
      exact h.claimed id (by simpa [hne] using hid)
  · rw [hopen] at hid
    simp only [List.mem_append, List.mem_singleton, not_or] at hid
    simp only [hclaims, if_neg hid.2] at hclaimed
    rw [Recorded.lastRelease?, hlog]
    exact h.refused id hid.1 hclaimed

/-- A pad is let go: its claim is given back, or the log says that this was refused. -/
theorem leave (h : Guarded p r) {pad : OpenPad PadId} (hnamed : pad.handle = pad.info.id) (hpads : q.pads ⊆ p.pads)
    (hopen : q.openIds = p.openIds.filter (· != pad.info.id)) : Guarded q (releasePad r pad) := by
  obtain ⟨answer, hlog, hothers, hself⟩ := releasePad_recorded r hnamed
  refine ⟨fun x hx => h.named x (hpads hx), fun id hid => ?_, fun id hid hclaimed => ?_⟩
  · rw [hopen, List.mem_filter, bne_iff_ne] at hid
    rw [hothers id hid.2]
    exact h.claimed id hid.1
  · -- the log ends in the answer for this pad, and says of every other what it said before
    rw [Recorded.lastRelease?, hlog]
    by_cases heq : id = pad.info.id
    · subst heq
      obtain ⟨e, rfl⟩ := hself hclaimed
      exact ⟨e, List.lookup_cons_self⟩
    · have hnot : id ∉ p.openIds := fun hmem => hid (by simp [hopen, hmem, heq])
      rw [hothers id heq] at hclaimed
      have hne : (id == pad.info.id) = false := by simpa using heq
      rw [List.lookup_cons, hne]
      exact h.refused id hnot hclaimed

/-- A hand may do anything but plug in an open pad afresh. -/
theorem plug (h : Guarded p r) (m : HandMove) (hspare : ∀ id ∈ m.plugged?, id ∉ p.openIds) :
    Guarded p (m.applyRecorded r) := by
  have hclaims : ∀ id, (m.applyRecorded r).backend.isClaimed id =
      if m.plugged? = some id then false else r.backend.isClaimed id := m.isClaimed_apply r.backend
  refine ⟨h.named, fun id hid => ?_, fun id hid hclaimed => ?_⟩
  · have hkept : m.plugged? ≠ some id := fun hplug => hspare id hplug hid
    rw [hclaims, if_neg hkept]
    exact h.claimed id hid
  · rw [hclaims] at hclaimed
    split at hclaimed
    · cases hclaimed
    · exact h.refused id hid hclaimed

end Guarded

namespace PadSource

variable {s t u : PadSource LoggedPads PadId}

/-- What opening pads may do: every pad that is not open in the end has the claim it had. -/
structure Admits (s t : PadSource LoggedPads PadId) : Prop where
  guarded : Guarded s.pool s.backend → Guarded t.pool t.backend
  log : t.backend.releases = s.backend.releases
  grows : s.pool.openIds ⊆ t.pool.openIds
  others : ∀ id ∉ t.pool.openIds, t.backend.backend.isClaimed id = s.backend.backend.isClaimed id

theorem Admits.trans (h₁ : s.Admits t) (h₂ : t.Admits u) : s.Admits u where
  guarded h := h₂.guarded (h₁.guarded h)
  log := h₂.log.trans h₁.log
  grows := List.Subset.trans h₁.grows h₂.grows
  others id hid := (h₂.others id hid).trans (h₁.others id fun hmem => hid (h₂.grows hmem))

/-- A change that opens nothing. -/
theorem Admits.same (hpads : t.pool.pads ⊆ s.pool.pads) (hopen : t.pool.openIds = s.pool.openIds)
    (hclaims : t.backend.backend.isClaimed = s.backend.backend.isClaimed)
    (hlog : t.backend.releases = s.backend.releases) : s.Admits t where
  guarded h := h.same hpads hopen hclaims hlog
  log := hlog
  grows := by rw [hopen]; exact List.Subset.refl _
  others id _ := by rw [hclaims]

theorem prepare_recorded (r : LoggedPads) (info : PadInfo) :
    prepare r info = ((prepare r.backend info).1, ⟨(prepare r.backend info).2, r.releases⟩) :=
  prepare_through (Recorded.respectsUse r.releases) r.backend info

theorem readPad_recorded {r r' : LoggedPads} {pad : OpenPad PadId}
    {answer : Except PadError RawState} (h : readPad r pad = (answer, r')) :
    r'.backend.isClaimed = r.backend.isClaimed ∧ r'.releases = r.releases := by
  rw [show readPad r pad = _ from readPad_through (Recorded.respectsUse r.releases) r.backend pad] at h
  obtain rfl := congrArg Prod.snd h
  exact ⟨ScriptedPads.isClaimed_readPad .., rfl⟩

theorem adopt_admits (s : PadSource LoggedPads PadId) (report : ScanTally) (info : PadInfo) :
    s.Admits (s.adopt report info).1 := by
  unfold adopt
  split
  · exact .same (List.Subset.refl _) rfl rfl rfl
  rw [prepare_recorded]
  rcases ScriptedPads.isClaimed_prepare s.backend.backend info with ⟨profile, after, h, hclaims⟩ | ⟨hnone, hclaims⟩
  · rw [h]
    have hopen := Pool.openIds_place { s.pool with openIds := s.pool.openIds ++ [info.id] } ⟨info, profile, info.id⟩
    have hpads : ({ s.pool with openIds := s.pool.openIds ++ [info.id] }.place ⟨info, profile, info.id⟩).1.pads ⊆
        ⟨info, profile, info.id⟩ :: s.pool.pads :=
      fun pad hpad => List.mem_cons.2
        (Pool.mem_pads_place (p := { s.pool with openIds := s.pool.openIds ++ [info.id] }) hpad)
    refine ⟨fun hs => hs.enter rfl hpads hopen hclaims rfl, rfl, ?_, fun id hid => ?_⟩
    · exact hopen ▸ List.subset_append_left ..
    · have hne : id ≠ info.id := fun heq => hid (by simp [hopen, heq])
      exact (congrFun hclaims id).trans (if_neg hne)
  · rcases h : prepare s.backend.backend info with ⟨_ | _ | pad, after⟩
    · rw [h] at hclaims
      exact .same (List.Subset.refl _) rfl hclaims rfl
    · rw [h] at hclaims
      exact .same (List.Subset.refl _) rfl hclaims rfl
    · simp [h] at hnone

theorem adoptAll_admits (s : PadSource LoggedPads PadId) (report : ScanTally)
    (attached : List PadInfo) : s.Admits (s.adoptAll report attached).1 := by
  induction attached generalizing s report with
  | nil => exact .same (List.Subset.refl _) rfl rfl rfl
  | cons info rest ih => exact (adopt_admits s report info).trans (ih _ _)

theorem scan_admits (s : PadSource LoggedPads PadId) : s.Admits s.scan.2 := by
  have hqueue : s.Admits ⟨({ s.pool with pending := [] }.placeAll s.pool.pending).1, s.backend⟩ := by
    refine .same (fun pad hpad => ?_) (Pool.openIds_placeAll _ _) rfl rfl
    simpa [Pool.pads, or_comm] using Pool.mem_pads_placeAll hpad
  exact hqueue.trans (adoptAll_admits _ _ _)

/-! ## calls keep the pool guarded -/

theorem foldl_guarded {α : Type} {l : List α} {f : PadSource LoggedPads PadId → α → PadSource LoggedPads PadId}
    (hf : ∀ t, Guarded t.pool t.backend → ∀ a ∈ l, Guarded (f t a).pool (f t a).backend)
    (h : Guarded s.pool s.backend) : Guarded (l.foldl f s).pool (l.foldl f s).backend :=
  List.foldlRecOn (motive := fun t => Guarded t.pool t.backend) l f h hf

theorem dissolve_guarded (h : Guarded s.pool s.backend) {b : Binding PadId} (hnamed : b.pad.handle = b.pad.info.id) :
    Guarded (s.dissolve b).pool (s.dissolve b).backend :=
  h.leave hnamed (Pool.pads_unbind s.pool b) (Pool.openIds_unbind s.pool b)

theorem releasePending_guarded (h : Guarded s.pool s.backend) {pad : OpenPad PadId}
    (hnamed : pad.handle = pad.info.id) : Guarded (s.releasePending pad).pool (s.releasePending pad).backend :=
  h.leave hnamed (List.Subset.refl _) rfl

theorem refresh_guarded [Arithmetic] (h : Guarded s.pool s.backend) (i : Nat) :
    Guarded (s.refresh i).2.pool (s.refresh i).2.backend := by
  rcases refresh_cases s i with
    ⟨-, h'⟩ | ⟨-, -, h'⟩ | ⟨b, raw, backend, -, hb, hread, h'⟩ | ⟨b, e, backend, -, hb, hread, h'⟩ <;> rw [h']
  · exact h
  · exact h
  · obtain ⟨hclaims, hlog⟩ := readPad_recorded hread
    exact h.same (List.Subset.refl _) rfl hclaims hlog
  · -- a reading that fails takes no claim away; the release that follows may
    obtain ⟨hclaims, hlog⟩ := readPad_recorded hread
    have hafter : Guarded s.pool backend := h.same (List.Subset.refl _) rfl hclaims hlog
    exact dissolve_guarded hafter (h.named _ (Pool.mem_pads_of_bindingOf? hb))

theorem release_guarded (h : Guarded s.pool s.backend) (i : Nat) :
    Guarded (s.release i).2.pool (s.release i).2.backend := by
  rcases release_cases s i with ⟨-, h'⟩ | ⟨-, -, h'⟩ | ⟨b, -, hb, h'⟩ <;> rw [h']
  · exact h
  · exact h
  · exact dissolve_guarded h (h.named _ (Pool.mem_pads_of_bindingOf? hb))

theorem dissolveAll_guarded (h : Guarded s.pool s.backend) : Guarded s.dissolveAll.pool s.dissolveAll.backend := by
  have hbound : ∀ b ∈ s.pool.bindings, b.pad.handle = b.pad.info.id :=
    fun b hb => h.named _ (List.mem_append_left _ (List.mem_map_of_mem hb))
  have hwaiting : ∀ pad ∈ s.pool.pending, pad.handle = pad.info.id :=
    fun pad hpad => h.named _ (List.mem_append_right _ hpad)
  have hdissolved := foldl_guarded (f := dissolve) (fun _ ht b hb => dissolve_guarded ht (hbound b hb)) h
  have hreleased := foldl_guarded (f := releasePending)
    (fun _ ht pad hpad => releasePending_guarded ht (hwaiting pad hpad)) hdissolved
  refine hreleased.same ?_ rfl rfl rfl
  exact List.append_subset.2 ⟨List.subset_append_left .., List.nil_subset _⟩

theorem perform_guarded [Arithmetic] (h : Guarded s.pool s.backend) (c : PadCall LoggedPads)
    (hc : ∀ b, c = .hardware b → Guarded s.pool b) : Guarded (s.perform c).pool (s.perform c).backend := by
  cases c with
  | scan => exact (scan_admits s).guarded h
  | refresh i => exact refresh_guarded h i
  | release i => exact release_guarded h i
  | releaseAll => exact dissolveAll_guarded h
  | update => exact foldl_guarded (fun _ ht i _ => refresh_guarded ht i) h
  | updateOne i => exact refresh_guarded h i
  | takeLoss i => exact h.same (List.Subset.refl _) rfl rfl rfl
  | hardware b => exact hc b rfl

/-! ## whole scripts -/

variable [Arithmetic]

/-- No pad is plugged in afresh while the pool holds it open. -/
def SparesOpen (s : PadSource ScriptedPads PadId) : List (PadCall HandMove) → Prop
  | [] => True
  | c :: rest => (∀ id ∈ c.plugged?, id ∉ s.pool.openIds) ∧ (s.act HandMove.apply c).SparesOpen rest

instance decidableSparesOpen (s : PadSource ScriptedPads PadId) :
    (script : List (PadCall HandMove)) → Decidable (s.SparesOpen script)
  | [] => inferInstanceAs (Decidable True)
  | c :: rest =>
    haveI := decidableSparesOpen (s.act HandMove.apply c) rest
    inferInstanceAs (Decidable (_ ∧ _))

theorem act_guarded (h : Guarded s.pool s.backend) (c : PadCall HandMove)
    (hspare : ∀ id ∈ c.plugged?, id ∉ s.pool.openIds) :
    Guarded (s.act HandMove.applyRecorded c).pool (s.act HandMove.applyRecorded c).backend := by
  refine perform_guarded h _ fun b hb => ?_
  cases c with
  | hardware m =>
    obtain rfl := PadCall.hardware.inj hb
    exact h.plug m hspare
  | scan | refresh | release | releaseAll | update | updateOne | takeLoss => cases hb

theorem play_guarded (h : Guarded s.pool s.backend) (script : List (PadCall HandMove))
    (hspares : (s.through Recorded.backend).SparesOpen script) :
    Guarded (s.play HandMove.applyRecorded script).pool (s.play HandMove.applyRecorded script).backend := by
  induction script generalizing s with
  | nil => exact h
  | cons c rest ih =>
    obtain ⟨hspare, hrest⟩ := hspares
    rw [act_through Recorded.respects HandMove.backend_applyRecorded] at hrest
    exact ih (act_guarded h c hspare) hrest

omit [Arithmetic] in
theorem guarded_ofCount (n : Nat) : Guarded (Pool.ofCount n) (Recorded.start ScriptedPads.empty) where
  named := by simp [Pool.pads, Pool.ofCount]
  claimed := by simp [Pool.ofCount]
  refused := by simp [ScriptedPads.isClaimed, Recorded.start, ScriptedPads.find?, ScriptedPads.empty]

/-- Calls on a pool alternate with hands that plug, unplug, move and break the pads, but never plug in afresh a pad
that the pool holds open. Then the open pads are those bound or waiting, and each of them is claimed. A pad that is
claimed and not open was refused when it was released last; a release is refused just when the pad is unplugged or
told to fail. A pad that a scan leaves closed is claimed only if that was so before the scan, and an opening that
breaks off, at whatever step, leaves all claims alone. The log that says all this changes nothing about the run. -/
theorem claims_of_play (n : Nat) (script : List (PadCall HandMove))
    (hspares : (ofCount n ScriptedPads.empty).SparesOpen script) :
    let s := (ofCount n (Recorded.start ScriptedPads.empty)).play HandMove.applyRecorded script
    (∀ id, id ∈ s.pool.openIds ↔ id ∈ s.pool.heldIds) ∧
    (∀ id ∈ s.pool.openIds, s.backend.backend.isClaimed id) ∧
    (∀ id ∉ s.pool.openIds, s.backend.backend.isClaimed id → ∃ e, s.backend.lastRelease? id = some (.error e)) ∧
    (∀ (b : ScriptedPads) (id : PadId), (∃ e, (PadBackend.release b id).1 = .error e) ↔
      ∀ p, b.find? id = some p → p.isAttached = false ∨ .release ∈ p.failing) ∧
    (∀ id ∉ s.scan.2.pool.openIds, s.scan.2.backend.backend.isClaimed id →
      s.backend.backend.isClaimed id ∧ ∃ e, s.backend.lastRelease? id = some (.error e)) ∧
    (∀ (b : ScriptedPads) (info : PadInfo), (∀ pad, (prepare b info).1 ≠ .ok (some pad)) →
      (prepare b info).2.isClaimed = b.isClaimed) ∧
    (ofCount n ScriptedPads.empty).play HandMove.apply script = s.through Recorded.backend := by
  intro s
  have hguarded : Guarded s.pool s.backend := play_guarded (guarded_ofCount n) script hspares
  have hscan := scan_admits s
  refine ⟨?_, hguarded.claimed, hguarded.refused, ScriptedPads.release_refused_iff, fun id hid hclaimed => ?_, ?_, ?_⟩
  · obtain ⟨calls, hrun⟩ := run_of_play HandMove.applyRecorded (ofCount n (.start .empty)) script
    have hsound := (run_moves (ofCount n (Recorded.start ScriptedPads.empty)) calls).sound Pool.sound_ofCount
    rw [← hrun] at hsound
    exact hsound.pads.same
  · rw [hscan.others id hid] at hclaimed
    exact ⟨hclaimed, hguarded.refused id (fun hopen => hid (hscan.grows hopen)) hclaimed⟩
  · intro b info hnone
    rcases ScriptedPads.isClaimed_prepare b info with ⟨profile, after, h, -⟩ | ⟨-, hclaims⟩
    · exact absurd (congrArg Prod.fst h) (hnone _)
    · exact hclaims
  · exact play_through Recorded.respects HandMove.backend_applyRecorded (ofCount n (.start .empty)) script

omit [Arithmetic] in
/-- A pad told to refuse its release stays claimed when the pool drops it. -/
theorem claimed_of_refused_release :
    letI : Arithmetic := .binary
    let script : List (PadCall HandMove) :=
      [.hardware (.attach "pad0" "Wireless Controller" ⟨6, 14, 1⟩), .scan, .hardware (.fail "pad0" .release),
        .releaseAll]
    let s := (ofCount 1 (Recorded.start ScriptedPads.empty)).play HandMove.applyRecorded script
    (ofCount 1 ScriptedPads.empty).SparesOpen script ∧
      s.backend.backend.isClaimed "pad0" ∧ ∃ e, s.backend.lastRelease? "pad0" = some (.error e) := by
  let : Arithmetic := .binary
  intro script s
  have hspares : (ofCount 1 ScriptedPads.empty).SparesOpen script := by decide +kernel
  have hclaimed : s.backend.backend.isClaimed "pad0" := by decide +kernel
  have hclosed : "pad0" ∉ s.pool.openIds := by decide +kernel
  obtain ⟨-, -, hrefused, -⟩ := claims_of_play 1 script hspares
  exact ⟨hspares, hclaimed, hrefused "pad0" hclosed hclaimed⟩

end PadSource
end GamepadPool
