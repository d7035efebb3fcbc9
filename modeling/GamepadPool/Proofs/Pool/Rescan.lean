import GamepadPool.Proofs.Pad.Steadiness
import GamepadPool.Proofs.Pool.Queue
/-! # Scanning again
Where the use of pads changes no answer, a second scan right after a first finds nothing to do: the pads that could
be opened are open, the others fail as they did before, and what the first scan left waiting still finds no slot. -/

namespace GamepadPool

section
variable {β γ η : Type} [PadBackend β η] {view : β → γ}

open Attempt

/-! ## what a second scan tries -/

/-- No pad is tried that was open before. -/
theorem closed_of_attempts {openIds : List PadId} {b : β} {attached : List PadInfo} :
    ∀ a ∈ (attempts openIds b attached).1, a.info.id ∉ openIds := by
  induction attached generalizing openIds b with
  | nil => simp [attempts]
  | cons info later ih =>
    by_cases hopen : info.id ∈ openIds
    · rw [attempts_of_open hopen]
      exact ih
    · rw [attempts_of_new hopen]
      intro a ha
      rcases List.mem_cons.1 ha with rfl | ha
      · exact hopen
      · exact fun hid => ih a ha (List.mem_append_left _ hid)

/-- Whether a pad can be opened does not depend on its name. -/
theorem isSome_attempt (b : β) {info other : PadInfo} (h : info.id = other.id) :
    (attempt b info).pad?.isSome = (attempt b other).pad?.isSome := by
  unfold Attempt.pad? attempt prepare giveUp
  rw [h]
  rcases PadBackend.openPad b other.id with ⟨_ | h, b⟩
  · rfl
  dsimp only
  rcases PadBackend.objectCounts b h with ⟨_ | counts, b⟩
  · rfl
  dsimp only
  cases Profile.classify counts with
  | none => rfl
  | some profile =>
    dsimp only
    rcases PadBackend.capture b h with ⟨_ | _, b⟩
    · rfl
    dsimp only
    rcases PadBackend.claim b h with ⟨_ | _, b⟩ <;> rfl

section
variable (hv : PadBackend.IsSteady view)
include hv

theorem attempt_congr {b c : β} (h : view b = view c) (info : PadInfo) : attempt b info = attempt c info :=
  congrArg (Attempt.mk info) ((prepare_steady hv info).answers h)

theorem view_attempts (openIds : List PadId) (b : β) (attached : List PadInfo) :
    view (attempts openIds b attached).2 = view b := by
  induction attached generalizing openIds b with
  | nil => rfl
  | cons info later ih =>
    by_cases hopen : info.id ∈ openIds
    · rw [attempts_of_open hopen]
      exact ih openIds b
    · rw [attempts_of_new hopen]
      exact (ih _ _).trans ((prepare_steady hv info).keeps b)

/-- What is opened in the course of the attempts could have been opened at the start. -/
theorem attempt_of_opened {openIds : List PadId} {b : β} {attached : List PadInfo} {pad : OpenPad η}
    (h : pad ∈ opened (attempts openIds b attached).1) : (attempt b pad.info).pad? = some pad := by
  induction attached generalizing openIds b with
  | nil => simp [attempts] at h
  | cons info later ih =>
    by_cases hopen : info.id ∈ openIds
    · rw [attempts_of_open hopen] at h
      exact ih h
    · rw [attempts_of_new hopen] at h
      rcases List.mem_append.1 ((opened_cons _ _) ▸ h) with hfirst | hlater
      · have hpad : (attempt b info).pad? = some pad := by simpa using hfirst
        rw [info_of_attempt hpad]
        exact hpad
      · rw [← ih hlater, attempt_congr hv ((prepare_steady hv info).keeps b)]

/-- Once all that can be opened is open, only the vain attempts are made again, and they end as before. -/
theorem attempts_again {openIds openIds' : List PadId} {b c : β} (h : view c = view b) (attached : List PadInfo)
    (hopen : ∀ id, id ∈ openIds' ↔ id ∈ openIds ∨ id ∈ openedIds (attempts openIds b attached).1) :
    (attempts openIds' c attached).1 = (attempts openIds b attached).1.filter (·.pad?.isNone) := by
  induction attached generalizing openIds b c with
  | nil => rfl
  | cons info later ih =>
    by_cases hinfo : info.id ∈ openIds
    · rw [attempts_of_open hinfo] at hopen ⊢
      rw [attempts_of_open ((hopen _).2 (.inl hinfo))]
      exact ih h hopen
    · rw [attempts_of_new hinfo] at hopen ⊢
      have hkept := (prepare_steady hv info).keeps b
      have hlater : ∀ id, id ∈ openIds' ↔ id ∈ openIds ++ openedIds [attempt b info] ∨
          id ∈ openedIds (attempts (openIds ++ openedIds [attempt b info]) (prepare b info).2 later).1 := by
        intro id
        rw [hopen]
        simp only [Prod.map, openedIds, opened_cons, opened_nil, List.append_nil, List.map_append, List.mem_append,
          or_assoc]
      have hviews : view (prepare c info).2 = view (prepare b info).2 := by
        rw [(prepare_steady hv info).keeps, hkept, h]
      cases hpad : (attempt b info).pad? with
      | some pad =>
        have hmine : info.id ∈ openedIds [attempt b info] := by simp [openedIds, hpad, info_of_attempt hpad]
        have hnow : info.id ∈ openIds' := (hlater _).2 (.inl (List.mem_append_right _ hmine))
        rw [attempts_of_open hnow, ih (h.trans hkept.symm) hlater]
        simp [hpad]
      | none =>
        -- what failed now fails under this identifier whenever it is tried, so the pad is not open later either
        have hnever : info.id ∉ openIds' := by
          intro hid
          rcases (hlater _).1 hid with hbefore | hafter
          · exact hinfo (by simpa [openedIds, hpad] using hbefore)
          · obtain ⟨pad, hpad', hsame⟩ := List.mem_map.1 hafter
            have hopened := attempt_of_opened hv hpad'
            rw [attempt_congr hv hkept] at hopened
            have hsome := isSome_attempt b hsame
            simp [hopened, hpad] at hsome
        have hnone : openedIds [attempt b info] = [] := by simp [openedIds, hpad]
        rw [hnone, List.append_nil] at hlater ⊢
        rw [attempts_of_new hnever, attempt_congr hv h, hnone, List.append_nil, Prod.map, ih hviews hlater]
        simp [hpad]

end
end

namespace Attempt

variable {η : Type} {tried : List (Attempt η)}

theorem opened_filter_vain (tried : List (Attempt η)) : opened (tried.filter (·.pad?.isNone)) = [] := by
  simp [opened, List.filterMap_eq_nil_iff]

theorem countP_filter_vain {test : Attempt η → Bool} (htest : ∀ a, test a → a.pad?.isNone) :
    (tried.filter (·.pad?.isNone)).countP test = tried.countP test := by
  rw [List.countP_filter]
  refine List.countP_congr fun a _ => ?_
  simpa using htest a

theorem isNone_of_isFailure (a : Attempt η) (h : a.isFailure) : a.pad?.isNone := by
  unfold isFailure at h
  unfold pad?
  split at h
  · cases h
  · simp [*]

theorem isNone_of_isSkip (a : Attempt η) (h : a.isSkip) : a.pad?.isNone := by
  unfold isSkip at h
  unfold pad?
  split at h
  · simp_all
  · cases h

end Attempt

/-! ## the second scan -/

namespace Pool

variable {η : Type} {p : Pool η}

theorem seats_of_settled (h : p.Settled) : seats p.free p.pending = 0 := by
  rcases h with h | h <;> simp [seats, h]

theorem seat_of_settled (h : p.Settled) : p.seat p.pending = p := by
  simp [seat, seats_of_settled h]

theorem register_of_vain {tried : List (Attempt η)} (h : Attempt.opened tried = []) : p.register tried = p := by
  simp [register, Attempt.openedIds, h]

end Pool

namespace PadSource

open Attempt Pool

section
variable {β γ η : Type} [PadBackend β η] {view : β → γ} (hv : PadBackend.IsSteady view)
include hv

theorem view_tries (s : PadSource β η) : view s.tries.2 = view s.backend := by
  have hkept := hv.enumerate.keeps s.backend
  unfold tries
  rcases hlist : PadBackend.enumerate s.backend with ⟨e | attached, b⟩ <;> rw [hlist] at hkept
  · exact hkept
  · exact (view_attempts hv _ _ _).trans hkept

theorem tries_again (s : PadSource β η) (h : s.pool.FreeRests) :
    s.scan.2.tries.1 = s.tries.1.filter (·.pad?.isNone) := by
  have hscan := congrArg Prod.snd (scan_seat s h)
  have hopen : s.scan.2.pool.openIds = s.pool.openIds ++ openedIds s.tries.1 := by
    rw [hscan]
    rfl
  have hviews : view s.backend = view s.scan.2.backend := by
    rw [hscan]
    exact (view_tries hv s).symm
  obtain ⟨listing, b, c, hb, hc, hlisted⟩ := hv.enumerate.both hviews
  simp only [tries, hb] at hopen ⊢
  rw [hc]
  cases listing with
  | error e => rfl
  | ok attached =>
    refine attempts_again hv hlisted.symm attached fun id => ?_
    rw [hopen, List.mem_append]

/-- The second scan counts the same failures, binds nobody and leaves the pool as it is. -/
theorem scan_again (s : PadSource β η) (h : s.pool.FreeRests) :
    s.scan.2.scan = ({ s.scan.1 with bound := 0 }, ⟨s.scan.2.pool, s.scan.2.tries.2⟩) := by
  have hfirst := scan_seat s h
  have hagain := tries_again hv s h
  have hsettled : s.scan.2.pool.Settled := by
    rw [hfirst]
    exact settled_seat _ _
  have hrests : s.scan.2.pool.FreeRests := by
    rw [hfirst]
    exact FreeRests.seat (p := s.pool.register s.tries.1) h _
  have hvain : opened s.scan.2.tries.1 = [] := by
    rw [hagain]
    exact opened_filter_vain _
  have hlength : s.scan.2.pool.pending.length = s.scan.1.pending := by
    rw [hfirst]
    exact length_pending_seat _ _
  have hsecond := scan_seat s.scan.2 hrests
  dsimp only at hsecond
  rw [hvain, List.append_nil, seats_of_settled hsettled, register_of_vain hvain, seat_of_settled hsettled,
    Nat.sub_zero, hlength, hagain, countP_filter_vain isNone_of_isFailure, countP_filter_vain isNone_of_isSkip]
    at hsecond
  rw [hsecond, hfirst]

end

/-- A pad that stays open is not touched by the attempts. -/
theorem find?_attempts {openIds : List PadId} {s : ScriptedPads} {attached : List PadInfo} {id : PadId}
    (h : id ∈ openIds) : (attempts openIds s attached).2.find? id = s.find? id := by
  induction attached generalizing openIds s with
  | nil => rfl
  | cons info later ih =>
    by_cases hopen : info.id ∈ openIds
    · rw [attempts_of_open hopen]
      exact ih h
    · rw [attempts_of_new hopen]
      have hne : id ≠ info.id := fun heq => hopen (heq ▸ h)
      exact (ih (List.mem_append_left _ h)).trans (ScriptedPads.find?_prepare s info hne)

/-- After any run over pads without hardware, in whatever state these are, a second scan right after a first leaves
the pool as it is, binds nobody, and counts the same waiting, failed and skipped pads. It tries no pad that is open
after the first scan, and every such pad stays as it is, the number of its openings included. -/
theorem rescan_of_run [Arithmetic] (n : Nat) (pads : ScriptedPads) (calls : List (PadCall ScriptedPads)) :
    let s := (ofCount n pads).run calls
    let first := s.scan
    let second := first.2.scan
    second.2.pool = first.2.pool ∧ second.1 = { first.1 with bound := 0 } ∧
      (∀ a ∈ first.2.tries.1, a.info.id ∉ first.2.pool.openIds) ∧
      ∀ id ∈ first.2.pool.openIds, second.2.backend.find? id = first.2.backend.find? id := by
  intro s first second
  have hsecond : second = _ := scan_again ScriptedPads.isSteady s (freeRests_of_run n pads calls)
  rw [hsecond]
  exact ⟨rfl, rfl, closed_of_attempts, fun id hid => find?_attempts hid⟩

end PadSource
end GamepadPool
