import GamepadPool.Proofs.Pool.Provenance
/-! # A scan serves a queue
The pads that wait and, behind them, the pads that a scan opens form one queue. The first in the queue gets the
lowest free slot, the next one the next slot, until either runs out: no pad overtakes another, and no slot stays
free while a pad waits. -/

namespace GamepadPool

/-! ## what a scan tries -/

/-- A listed pad whose opening was tried, and what came of it. -/
structure Attempt (η : Type) where
  info : PadInfo
  answer : Except PadError (Option (OpenPad η))

namespace Attempt

variable {η : Type}

def pad? (a : Attempt η) : Option (OpenPad η) :=
  match a.answer with
  | .ok pad => pad
  | .error _ => none

def isFailure (a : Attempt η) : Bool :=
  match a.answer with
  | .ok _ => false
  | .error _ => true

/-- The device turned out to have no objects. -/
def isSkip (a : Attempt η) : Bool :=
  match a.answer with
  | .ok pad => pad.isNone
  | .error _ => false

/-- The pads that were opened, in their order. -/
def opened (tried : List (Attempt η)) : List (OpenPad η) := tried.filterMap pad?

def openedIds (tried : List (Attempt η)) : List PadId := (opened tried).map (·.info.id)

@[simp] theorem opened_nil : opened ([] : List (Attempt η)) = [] := rfl

@[simp] theorem opened_cons (a : Attempt η) (rest : List (Attempt η)) :
    opened (a :: rest) = a.pad?.toList ++ opened rest := by
  cases h : a.pad? <;> simp [opened, h]

end Attempt

section
variable {β η : Type} [PadBackend β η]

def attempt (b : β) (info : PadInfo) : Attempt η := ⟨info, (prepare b info).1⟩

/-- Goes through a listing and tries every pad that is not open when its turn comes. -/
def attempts (openIds : List PadId) (b : β) : List PadInfo → List (Attempt η) × β
  | [] => ([], b)
  | info :: later =>
    if info.id ∈ openIds then attempts openIds b later
    else
      let a := attempt b info
      let (rest, b) := attempts (openIds ++ Attempt.openedIds [a]) (prepare b info).2 later
      (a :: rest, b)

/-- What a scan tries: nothing if there is no listing. -/
def PadSource.tries (s : PadSource β η) : List (Attempt η) × β :=
  match PadBackend.enumerate s.backend with
  | (.error _, b) => ([], b)
  | (.ok attached, b) => attempts s.pool.openIds b attached

theorem attempts_of_open {openIds : List PadId} {info : PadInfo} (h : info.id ∈ openIds) (b : β)
    (later : List PadInfo) :
    attempts openIds b (info :: later) = attempts openIds b later := by
  rw [attempts, if_pos h]

theorem attempts_of_new {openIds : List PadId} {info : PadInfo} (h : info.id ∉ openIds) (b : β)
    (later : List PadInfo) :
    attempts openIds b (info :: later) =
      (attempts (openIds ++ Attempt.openedIds [attempt b info]) (prepare b info).2 later).map
        (attempt b info :: ·) id := by
  rw [attempts, if_neg h]
  rfl

theorem info_of_attempt {b : β} {info : PadInfo} {pad : OpenPad η} (h : (attempt b info).pad? = some pad) :
    pad.info = info := by
  unfold Attempt.pad? attempt at h
  rcases hprep : prepare b info with ⟨_ | answer, b'⟩ <;> rw [hprep] at h
  · cases h
  · obtain rfl : answer = some pad := h
    exact PadSource.info_of_prepare hprep

end

/-! ## how a queue is seated -/

namespace Pool

variable {η : Type} {p : Pool η}

/-- How many of a queue get a slot. -/
def seats (free : List Nat) (queue : List (OpenPad η)) : Nat := min queue.length free.length

theorem seats_le (free : List Nat) (queue more : List (OpenPad η)) :
    seats free queue ≤ seats free (queue ++ more) := by
  simp only [seats, List.length_append]
  omega

theorem seats_gain (free : List Nat) (queue more later : List (OpenPad η)) :
    (seats free (queue ++ more) - seats free queue) +
        (seats free (queue ++ more ++ later) - seats free (queue ++ more)) =
      seats free (queue ++ more ++ later) - seats free queue := by
  simp only [seats, List.length_append]
  omega

/-- The pool after a queue was served, the first with the lowest slot. Slots keep what they show. -/
def seat (p : Pool η) (queue : List (OpenPad η)) : Pool η :=
  let k := seats p.free queue
  { p with
    free := p.free.drop k
    bindings := p.bindings ++ List.zipWith Binding.mk (p.free.take k) (queue.take k)
    pending := queue.drop k }

/-- Free slots show nothing. -/
def FreeRests (p : Pool η) : Prop := ∀ i ∈ p.free, p.inputs i = some .neutral

theorem Agrees.freeRests [Arithmetic] {n : Nat} {past : History η} (ha : p.Agrees past) (hs : p.Sound n) :
    p.FreeRests := by
  intro i hi
  refine ha.inputs_of_unbound ?_ (hs.slots.disjoint i hi)
  rw [hs.size]
  exact (hs.slots.complete i).1 (.inl hi)

theorem modifySlot_rest {i : Nat} (h : p.inputs i = some .neutral) : p.modifySlot i rest = p := by
  obtain ⟨x, hx, hneutral⟩ := Option.map_eq_some_iff.1 h
  have hsame : p.slots.modify i rest = p.slots := by
    refine List.ext_getElem? fun k => ?_
    rw [List.getElem?_modify]
    split
    · rename_i hk
      subst hk
      simp [hx, rest, ← hneutral]
    · simp
  rw [modifySlot, hsame]

/-- The next in the queue gets the next slot, or the last place among those that wait. -/
theorem place_seat (h : p.FreeRests) (queue : List (OpenPad η)) (pad : OpenPad η) :
    (p.seat queue).place pad = (p.seat (queue ++ [pad]), seats p.free (queue ++ [pad]) - seats p.free queue) := by
  by_cases hfull : p.free.length ≤ queue.length
  · have hseats : seats p.free queue = p.free.length := by
      simp only [seats]
      omega
    have hseats' : seats p.free (queue ++ [pad]) = p.free.length := by
      simp only [seats, List.length_append]
      omega
    have hnone : (p.seat queue).free = [] := by
      rw [seat, hseats, List.drop_length]
    rw [place_of_full hnone]
    simp only [seat, hseats, hseats', List.take_append_of_le_length hfull, List.drop_append_of_le_length hfull,
      Nat.sub_self]
  · have hlt : queue.length < p.free.length := by omega
    have hseats : seats p.free queue = queue.length := by
      simp only [seats]
      omega
    have hseats' : seats p.free (queue ++ [pad]) = queue.length + 1 := by
      simp only [seats, List.length_append, List.length_singleton]
      omega
    have hnext : (p.seat queue).free = p.free[queue.length] :: p.free.drop (queue.length + 1) := by
      rw [seat, hseats, List.drop_eq_getElem_cons hlt]
    have hrests : (p.seat queue).modifySlot p.free[queue.length] rest = p.seat queue :=
      modifySlot_rest (h _ (List.getElem_mem hlt))
    have hbindings : List.zipWith Binding.mk (p.free.take (queue.length + 1)) (queue ++ [pad]) =
        List.zipWith Binding.mk (p.free.take queue.length) queue ++ [⟨p.free[queue.length], pad⟩] := by
      rw [List.take_succ_eq_append_getElem hlt, List.zipWith_append (by simp; omega)]
      rfl
    rw [place_of_free hnext, hrests]
    simp [seat, hseats, hseats', List.take_of_length_le, hbindings]

theorem FreeRests.seat (h : p.FreeRests) (queue : List (OpenPad η)) : (p.seat queue).FreeRests :=
  fun i hi => h i (List.mem_of_mem_drop hi)

theorem placeAll_seat (h : p.FreeRests) (queue later : List (OpenPad η)) :
    (p.seat queue).placeAll later =
      (p.seat (queue ++ later), seats p.free (queue ++ later) - seats p.free queue) := by
  induction later generalizing queue with
  | nil => simp [placeAll]
  | cons pad later ih =>
    simp only [placeAll, place_seat h, ih, seats_gain]
    rw [List.append_assoc, List.singleton_append]

theorem seat_nil (p : Pool η) : p.seat [] = { p with pending := [] } := by
  simp [seat, seats]

@[simp] theorem length_pending_seat (p : Pool η) (queue : List (OpenPad η)) :
    (p.seat queue).pending.length = queue.length - seats p.free queue :=
  List.length_drop

/-- Nobody waits, or no slot is free. -/
def Settled (p : Pool η) : Prop := p.pending = [] ∨ p.free = []

theorem settled_seat (p : Pool η) (queue : List (OpenPad η)) : (p.seat queue).Settled := by
  simp only [Settled, seat, seats, List.drop_eq_nil_iff]
  omega

/-- Marks what was opened as open. -/
def register (p : Pool η) (tried : List (Attempt η)) : Pool η :=
  { p with openIds := p.openIds ++ Attempt.openedIds tried }

@[simp] theorem free_register (p : Pool η) (tried : List (Attempt η)) : (p.register tried).free = p.free := rfl

theorem register_cons (p : Pool η) (a : Attempt η) (rest : List (Attempt η)) :
    p.register (a :: rest) = (p.register [a]).register rest := by
  simp [register, Attempt.openedIds]

end Pool

/-- Counts what was bound and what came of the attempts. -/
def ScanTally.count {η : Type} (report : ScanTally) (bound : Nat) (tried : List (Attempt η)) : ScanTally :=
  { report with
    bound := report.bound + bound
    failed := report.failed + tried.countP Attempt.isFailure
    skipped := report.skipped + tried.countP Attempt.isSkip }

theorem ScanTally.count_cons {η : Type} (report : ScanTally) (m n : Nat) (a : Attempt η)
    (rest : List (Attempt η)) :
    report.count (m + n) (a :: rest) = (report.count m [a]).count n rest := by
  simp only [count, List.countP_cons, List.countP_nil, Nat.zero_add, ScanTally.mk.injEq, true_and]
  refine ⟨?_, ?_, ?_⟩ <;> omega

namespace PadSource

open Attempt Pool

variable {β η : Type} [PadBackend β η] {p : Pool η}

theorem adopt_seat (h : p.FreeRests) (queue : List (OpenPad η)) (b : β) (report : ScanTally) {info : PadInfo}
    (hnew : info.id ∉ p.openIds) :
    adopt ⟨p.seat queue, b⟩ report info =
      (⟨(p.register [attempt b info]).seat (queue ++ opened [attempt b info]), (prepare b info).2⟩,
        report.count (seats p.free (queue ++ opened [attempt b info]) - seats p.free queue) [attempt b info]) := by
  have hclosed : ¬ (p.seat queue).openIds.contains info.id = true := by
    rw [List.contains_iff_mem]
    exact hnew
  unfold adopt
  rw [if_neg hclosed]
  rcases hprep : prepare b info with ⟨e | _ | pad, b'⟩
  · have ha : attempt b info = ⟨info, .error e⟩ := by rw [attempt, hprep]
    simp [ha, register, openedIds, Attempt.pad?, ScanTally.count, Attempt.isFailure, Attempt.isSkip]
  · have ha : attempt b info = ⟨info, .ok none⟩ := by rw [attempt, hprep]
    simp [ha, register, openedIds, Attempt.pad?, ScanTally.count, Attempt.isFailure, Attempt.isSkip]
  · have ha : attempt b info = ⟨info, .ok (some pad)⟩ := by rw [attempt, hprep]
    have hregister : p.register [attempt b info] = { p with openIds := p.openIds ++ [info.id] } := by
      simp [register, openedIds, ha, Attempt.pad?, info_of_prepare hprep]
    have hplace : Pool.place { p.seat queue with openIds := p.openIds ++ [info.id] } pad = _ :=
      place_seat (p := { p with openIds := p.openIds ++ [info.id] }) h queue pad
    have hopen : (p.seat queue).openIds = p.openIds := rfl
    simp only [hopen, hplace, hregister]
    simp [ha, Attempt.pad?, ScanTally.count, Attempt.isFailure, Attempt.isSkip]

theorem adoptAll_seat (h : p.FreeRests) (queue : List (OpenPad η)) (b : β) (report : ScanTally)
    (attached : List PadInfo) :
    let tried := (attempts p.openIds b attached).1
    adoptAll ⟨p.seat queue, b⟩ report attached =
      (⟨(p.register tried).seat (queue ++ opened tried), (attempts p.openIds b attached).2⟩,
        report.count (seats p.free (queue ++ opened tried) - seats p.free queue) tried) := by
  induction attached generalizing p queue b report with
  | nil => simp [adoptAll, attempts, register, openedIds, ScanTally.count]
  | cons info later ih =>
    by_cases hopen : info.id ∈ p.openIds
    · have hskip : adopt ⟨p.seat queue, b⟩ report info = (⟨p.seat queue, b⟩, report) := by
        unfold adopt
        rw [if_pos (by rw [List.contains_iff_mem]; exact hopen)]
      simp only [adoptAll, attempts_of_open hopen, hskip]
      exact ih h queue b report
    · have hlater := ih (p := p.register [attempt b info]) h (queue ++ opened [attempt b info]) (prepare b info).2
        (report.count (seats p.free (queue ++ opened [attempt b info]) - seats p.free queue)
          [attempt b info])
      have hids : (p.register [attempt b info]).openIds = p.openIds ++ openedIds [attempt b info] := rfl
      simp only [adoptAll, attempts_of_new hopen, adopt_seat h queue b report hopen, Prod.map, id_eq, hlater, hids]
      rcases attempts (p.openIds ++ openedIds [attempt b info]) (prepare b info).2 later with ⟨rest, b'⟩
      have hqueue : opened (attempt b info :: rest) = opened [attempt b info] ++ opened rest := by
        simp
      dsimp only
      rw [register_cons p _ rest, hqueue, ← List.append_assoc, ← seats_gain, ScanTally.count_cons]
      rfl

/-- A scan serves the waiting pads and behind them those it opens. -/
theorem scan_seat (s : PadSource β η) (h : s.pool.FreeRests) :
    let tried := s.tries.1
    let queue := s.pool.pending ++ opened tried
    let k := seats s.pool.free queue
    s.scan = (⟨k, queue.length - k, tried.countP Attempt.isFailure, tried.countP Attempt.isSkip⟩,
      ⟨(s.pool.register tried).seat queue, s.tries.2⟩) := by
  have hheld : { s.pool with pending := [] }.placeAll s.pool.pending =
      (s.pool.seat s.pool.pending, seats s.pool.free s.pool.pending) := by
    rw [← seat_nil, placeAll_seat h, List.nil_append]
    simp [seats]
  unfold scan tries
  rw [hheld]
  dsimp only
  rcases PadBackend.enumerate s.backend with ⟨e | attached, b⟩
  · simp [register, openedIds]
  · have hattached := adoptAll_seat h s.pool.pending b ⟨seats s.pool.free s.pool.pending, 0, 0, 0⟩ attached
    have hbound := seats_le s.pool.free s.pool.pending (opened (attempts s.pool.openIds b attached).1)
    simp [hattached, ScanTally.count, Nat.add_sub_cancel' hbound]

theorem freeRests_of_run [Arithmetic] (n : Nat) (b : β) (calls : List (PadCall β)) :
    ((ofCount n b).run calls).pool.FreeRests := by
  have hm := run_moves (ofCount n b) calls
  exact (hm.agrees sound_ofCount agrees_ofCount).freeRests (hm.sound sound_ofCount)

/-- After any run over any backend, a scan serves a queue: the waiting pads, and behind them those that it opens. It
goes through the listing and tries each pad that is not open when its turn comes. The first `k` of the queue get the
`k` lowest slots in turn, where `k` is the number of pads or of free slots, whichever is less; the others wait in the
order of the queue. The counts tell what was bound, what waits and what the attempts came to, and nothing else
changes. So a slot is left free only if nobody waits. -/
theorem scan_of_run [Arithmetic] (n : Nat) (b : β) (calls : List (PadCall β)) :
    let s := (ofCount n b).run calls
    let tried := s.tries.1
    let queue := s.pool.pending ++ opened tried
    let k := min queue.length s.pool.free.length
    s.scan =
      (⟨k, queue.length - k, tried.countP Attempt.isFailure, tried.countP Attempt.isSkip⟩,
        ⟨{ s.pool with
            free := s.pool.free.drop k
            bindings := s.pool.bindings ++ List.zipWith Binding.mk (s.pool.free.take k) (queue.take k)
            pending := queue.drop k
            openIds := s.pool.openIds ++ (opened tried).map (·.info.id) }, s.tries.2⟩) ∧
      s.pool.free.Pairwise (· < ·) ∧
      s.scan.2.pool.Settled := by
  intro s tried queue k
  have hs : s.pool.Sound n := (run_moves (ofCount n b) calls).sound sound_ofCount
  have hscan := scan_seat s (freeRests_of_run n b calls)
  refine ⟨hscan, hs.slots.ascending, ?_⟩
  rw [hscan]
  exact settled_seat _ _

end PadSource
end GamepadPool
