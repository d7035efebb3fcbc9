import GamepadPool.Proofs.Pool.Calls
/-! # A backend that keeps a log
A map between two backends that every call respects carries over to whole runs: a pool cannot tell the two sides
apart. So the answers to releases may be logged beside a backend, and a run over the log is a run over the
backend. -/

namespace GamepadPool

/-- Every call but a release answers the same on both sides of the map, and leaves states that the map connects
again. -/
structure PadBackend.RespectsUse {β γ η : Type} [PadBackend β η] [PadBackend γ η] (f : β → γ) : Prop where
  enumerate (b : β) : PadBackend.enumerate (f b) = (PadBackend.enumerate b).map id f
  openPad (b : β) (pad : PadId) : PadBackend.openPad (f b) pad = (PadBackend.openPad b pad).map id f
  objectCounts (b : β) (h : η) : PadBackend.objectCounts (f b) h = (PadBackend.objectCounts b h).map id f
  capture (b : β) (h : η) : PadBackend.capture (f b) h = (PadBackend.capture b h).map id f
  claim (b : β) (h : η) : PadBackend.claim (f b) h = (PadBackend.claim b h).map id f
  poll (b : β) (h : η) : PadBackend.poll (f b) h = (PadBackend.poll b h).map id f
  read (b : β) (h : η) : PadBackend.read (f b) h = (PadBackend.read b h).map id f
  discard (b : β) (h : η) : PadBackend.discard (f b) h = f (PadBackend.discard b h)

/-- So does a release. -/
structure PadBackend.Respects {β γ η : Type} [PadBackend β η] [PadBackend γ η] (f : β → γ) : Prop
    extends PadBackend.RespectsUse f where
  release (b : β) (h : η) : PadBackend.release (f b) h = (PadBackend.release b h).map id f

section
variable {β γ η : Type} [PadBackend β η] [PadBackend γ η] {f : β → γ}

theorem prepare_through (hf : PadBackend.RespectsUse f) (b : β) (info : PadInfo) :
    prepare (f b) info = (prepare b info).map id f := by
  unfold prepare
  rw [hf.openPad]
  rcases PadBackend.openPad b info.id with ⟨_ | h, b⟩
  · rfl
  simp only [Prod.map, id_eq, hf.objectCounts]
  rcases PadBackend.objectCounts b h with ⟨_ | counts, b⟩
  · simp [giveUp, hf.discard]
  dsimp only
  cases Profile.classify counts with
  | none => simp [giveUp, hf.discard]
  | some profile =>
    simp only [hf.capture]
    rcases PadBackend.capture b h with ⟨_ | _, b⟩
    · simp [giveUp, hf.discard]
    simp only [Prod.map, id_eq, hf.claim]
    rcases PadBackend.claim b h with ⟨_ | _, b⟩
    · simp [giveUp, hf.discard]
    · rfl

theorem readPad_through (hf : PadBackend.RespectsUse f) (b : β) (pad : OpenPad η) :
    readPad (f b) pad = (readPad b pad).map id f := by
  unfold readPad
  rw [hf.poll]
  rcases PadBackend.poll b pad.handle with ⟨_ | _, b⟩
  · rfl
  · simp [hf.read]

theorem releasePad_through (hf : PadBackend.Respects f) (b : β) (pad : OpenPad η) :
    releasePad (f b) pad = f (releasePad b pad) := by
  simp [releasePad, hf.release, hf.discard]

end

/-- A call whose hardware turns are made on the other side of a map. -/
def PadCall.map {β γ : Type} (f : β → γ) : PadCall β → PadCall γ
  | scan => .scan
  | refresh i => .refresh i
  | release i => .release i
  | releaseAll => .releaseAll
  | update => .update
  | updateOne i => .updateOne i
  | takeLoss i => .takeLoss i
  | hardware b => .hardware (f b)

namespace PadSource

variable {β γ η : Type}

/-- The same pool, seen through the map. -/
def through (f : β → γ) (s : PadSource β η) : PadSource γ η := ⟨s.pool, f s.backend⟩

@[simp] theorem pool_through (f : β → γ) (s : PadSource β η) : (s.through f).pool = s.pool := rfl

@[simp] theorem backend_through (f : β → γ) (s : PadSource β η) : (s.through f).backend = f s.backend := rfl

variable [PadBackend β η] [PadBackend γ η] {f : β → γ}

/-! ## one call -/

section
variable (hf : PadBackend.Respects f)
include hf

theorem adopt_through (s : PadSource β η) (report : ScanTally) (info : PadInfo) :
    (s.through f).adopt report info = (s.adopt report info).map (through f) id := by
  unfold adopt
  by_cases hopen : s.pool.openIds.contains info.id
  · rw [if_pos hopen, if_pos (by exact hopen)]
    rfl
  rw [if_neg hopen, if_neg (by exact hopen)]
  simp only [through, prepare_through hf.toRespectsUse]
  rcases prepare s.backend info with ⟨_ | _ | pad, b⟩ <;> rfl

theorem adoptAll_through (s : PadSource β η) (report : ScanTally) (attached : List PadInfo) :
    (s.through f).adoptAll report attached = (s.adoptAll report attached).map (through f) id := by
  induction attached generalizing s report with
  | nil => rfl
  | cons info rest ih =>
    simp only [adoptAll, adopt_through hf]
    exact ih _ _

theorem scan_through (s : PadSource β η) : (s.through f).scan = s.scan.map id (through f) := by
  simp only [scan, through, hf.enumerate]
  rcases PadBackend.enumerate s.backend with ⟨_ | attached, b⟩
  · rfl
  · have := adoptAll_through hf ⟨({ s.pool with pending := [] }.placeAll s.pool.pending).1, b⟩
      ⟨({ s.pool with pending := [] }.placeAll s.pool.pending).2, 0, 0, 0⟩ attached
    simp only [through] at this
    simp [this]

theorem dissolve_through (s : PadSource β η) (b : Binding η) : (s.through f).dissolve b = (s.dissolve b).through f := by
  simp [dissolve, through, releasePad_through hf]

theorem releasePending_through (s : PadSource β η) (pad : OpenPad η) :
    (s.through f).releasePending pad = (s.releasePending pad).through f := by
  simp [releasePending, through, releasePad_through hf]

theorem release_through (s : PadSource β η) (i : Nat) : (s.through f).release i = (s.release i).map id (through f) := by
  rcases release_cases s i with ⟨hi, h⟩ | ⟨hi, hb, h⟩ | ⟨b, hi, hb, h⟩ <;> rw [h]
  · simp [release, hi]
  · simp [release, Nat.not_le.2 hi, hb]
  · simp [release, Nat.not_le.2 hi, hb, dissolve_through hf]

theorem dissolveAll_through (s : PadSource β η) : (s.through f).dissolveAll = s.dissolveAll.through f := by
  simp only [dissolveAll]
  rw [List.foldl_hom (through f) (dissolve_through hf), List.foldl_hom (through f) (releasePending_through hf)]
  rfl

variable [Arithmetic]

theorem refresh_through (s : PadSource β η) (i : Nat) : (s.through f).refresh i = (s.refresh i).map id (through f) := by
  rcases refresh_cases s i with
    ⟨hi, h⟩ | ⟨hi, hb, h⟩ | ⟨b, raw, backend, hi, hb, hread, h⟩ | ⟨b, e, backend, hi, hb, hread, h⟩ <;> rw [h]
  · simp [refresh, hi]
  · simp [refresh, Nat.not_le.2 hi, hb]
  · simp [refresh, Nat.not_le.2 hi, hb, readPad_through hf.toRespectsUse, hread, through]
  · simp only [refresh, pool_through, Nat.not_le.2 hi, if_false, hb, backend_through,
      readPad_through hf.toRespectsUse, hread]
    exact congrArg _ (dissolve_through hf ⟨s.pool, backend⟩ b)

theorem refreshAll_through (s : PadSource β η) : (s.through f).refreshAll = s.refreshAll.through f :=
  List.foldl_hom (through f) fun s i => congrArg Prod.snd (refresh_through hf s i)

theorem perform_through (s : PadSource β η) (c : PadCall β) :
    (s.through f).perform (c.map f) = (s.perform c).through f := by
  cases c with
  | scan => simp [perform, PadCall.map, scan_through hf]
  | refresh i => simp [perform, PadCall.map, refresh_through hf]
  | release i => simp [perform, PadCall.map, release_through hf]
  | releaseAll => exact dissolveAll_through hf s
  | update => exact refreshAll_through hf s
  | updateOne i => exact congrArg Prod.snd (refresh_through hf s i)
  | takeLoss i => rfl
  | hardware b => rfl

end

/-! ## scripts -/

variable {μ : Type} [Arithmetic]

/-- A call, where a turn of the hardware is told as a move. -/
def act (move : μ → β → β) (s : PadSource β η) (c : PadCall μ) : PadSource β η :=
  s.perform (c.map (move · s.backend))

def play (move : μ → β → β) (s : PadSource β η) (script : List (PadCall μ)) : PadSource β η :=
  script.foldl (act move) s

/-- A script is a run whose turns of the hardware are known only as it goes. -/
theorem run_of_play (move : μ → β → β) (s : PadSource β η) (script : List (PadCall μ)) :
    ∃ calls, s.play move script = s.run calls := by
  induction script generalizing s with
  | nil => exact ⟨[], rfl⟩
  | cons c rest ih =>
    obtain ⟨calls, h⟩ := ih (s.act move c)
    exact ⟨c.map (move · s.backend) :: calls, h⟩

theorem act_through (hf : PadBackend.Respects f) {move : μ → β → β} {move' : μ → γ → γ}
    (hmove : ∀ m b, move' m (f b) = f (move m b)) (s : PadSource β η) (c : PadCall μ) :
    (s.through f).act move' c = (s.act move c).through f := by
  have hc : c.map (move' · (f s.backend)) = (c.map (move · s.backend)).map f := by
    cases c <;> simp [PadCall.map, hmove]
  rw [act, backend_through, hc, perform_through hf]
  rfl

/-- A script goes the same way on both sides of a map that its moves respect. -/
theorem play_through (hf : PadBackend.Respects f) {move : μ → β → β} {move' : μ → γ → γ}
    (hmove : ∀ m b, move' m (f b) = f (move m b)) (s : PadSource β η) (script : List (PadCall μ)) :
    (s.through f).play move' script = (s.play move script).through f :=
  List.foldl_hom (through f) (act_through hf hmove)

end PadSource

/-! ## the log -/

/-- A backend beside what it answered to releases, the last answer first. -/
structure Recorded (β η : Type) where
  backend : β
  releases : List (η × Except PadError Unit)

namespace Recorded

variable {α β η : Type}

def start (b : β) : Recorded β η := ⟨b, []⟩

/-- What a pad was answered when it was released last. -/
def lastRelease? [BEq η] (r : Recorded β η) (h : η) : Option (Except PadError Unit) := r.releases.lookup h

/-- A step of the backend that the log does not mention. -/
def lift (r : Recorded β η) (step : β → α × β) : α × Recorded β η :=
  ((step r.backend).1, { r with backend := (step r.backend).2 })

variable [PadBackend β η]

instance : PadBackend (Recorded β η) η where
  enumerate r := r.lift PadBackend.enumerate
  openPad r id := r.lift (PadBackend.openPad · id)
  objectCounts r h := r.lift (PadBackend.objectCounts · h)
  capture r h := r.lift (PadBackend.capture · h)
  claim r h := r.lift (PadBackend.claim · h)
  poll r h := r.lift (PadBackend.poll · h)
  read r h := r.lift (PadBackend.read · h)
  release r h :=
    let (answer, b) := PadBackend.release r.backend h
    (answer, ⟨b, (h, answer) :: r.releases⟩)
  discard r h := { r with backend := PadBackend.discard r.backend h }

theorem respects : PadBackend.Respects (backend : Recorded β η → β) where
  enumerate _ := rfl
  openPad _ _ := rfl
  objectCounts _ _ := rfl
  capture _ _ := rfl
  claim _ _ := rfl
  poll _ _ := rfl
  read _ _ := rfl
  discard _ _ := rfl
  release _ _ := rfl

/-- The log stays as it is until a pad is released. -/
theorem respectsUse (releases : List (η × Except PadError Unit)) :
    PadBackend.RespectsUse fun b : β => (⟨b, releases⟩ : Recorded β η) where
  enumerate _ := rfl
  openPad _ _ := rfl
  objectCounts _ _ := rfl
  capture _ _ := rfl
  claim _ _ := rfl
  poll _ _ := rfl
  read _ _ := rfl
  discard _ _ := rfl

end Recorded
end GamepadPool
