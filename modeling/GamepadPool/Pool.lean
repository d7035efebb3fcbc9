import GamepadPool.Pad.Backend
import GamepadPool.SnapshotSource
/-! # The pool of virtual devices
Physical pads are bound to a fixed number of slots, the lowest free slot first. A pad that finds every slot
taken is held open and waits in a queue. A pad that fails is released, and its slot reports the loss once. -/

namespace GamepadPool

/-- A pad that went through the whole opening sequence. -/
structure OpenPad (η : Type) where
  info : PadInfo
  profile : Profile
  handle : η
deriving DecidableEq, Repr

structure Binding (η : Type) where
  slot : Nat
  pad : OpenPad η
deriving DecidableEq, Repr

structure Slot where
  inputs : Snapshot
  /-- A binding was released and nobody has asked since. -/
  isLost : Bool
deriving DecidableEq, Repr

def Slot.fresh : Slot := ⟨.neutral, false⟩

structure Pool (η : Type) where
  slots : List Slot
  /-- Ascending. -/
  free : List Nat
  /-- In the order they were made. -/
  bindings : List (Binding η)
  /-- Waiting for a slot, the longest waiting first. -/
  pending : List (OpenPad η)
  /-- Identifiers of the pads that are open. -/
  openIds : List PadId
deriving DecidableEq, Repr

/-- What one scan did. -/
structure ScanTally where
  bound : Nat
  pending : Nat
  failed : Nat
  skipped : Nat
deriving DecidableEq, Repr

/-- What a refresh did. -/
inductive RefreshResult where
  | updated
  | unassigned
  /-- The pad failed and was released. -/
  | released
deriving DecidableEq, Repr

def RefreshResult.name : RefreshResult → String
  | updated => "Updated"
  | unassigned => "Unassigned"
  | released => "Released"

/-- The slot does not exist. -/
structure UnknownSlot where
  index : Nat
deriving DecidableEq, Repr

def UnknownSlot.message (e : UnknownSlot) : String := s!"Virtual device {e.index} is not managed"

/-- A binding as it is shown to others. -/
structure BindingInfo where
  virtualId : UInt64
  physicalId : PadId
  name : String
  profile : Profile
deriving DecidableEq, Repr

/-! ## slots -/

namespace Pool

variable {η : Type}

def ofCount (n : Nat) : Pool η := ⟨List.replicate n .fresh, List.range n, [], [], []⟩

def size (p : Pool η) : Nat := p.slots.length

def modifySlot (p : Pool η) (i : Nat) (f : Slot → Slot) : Pool η := { p with slots := p.slots.modify i f }

def rest (s : Slot) : Slot := { s with inputs := .neutral }

/-- Binds a pad to the lowest free slot, whose snapshot starts at rest. -/
def bind? (p : Pool η) (pad : OpenPad η) : Option (Pool η) :=
  match p.free with
  | [] => none
  | i :: free => some { p.modifySlot i rest with free := free, bindings := p.bindings ++ [⟨i, pad⟩] }

/-- Binds a pad, or puts it at the end of the queue. Counts what was bound. -/
def place (p : Pool η) (pad : OpenPad η) : Pool η × Nat :=
  match p.bind? pad with
  | some p => (p, 1)
  | none => ({ p with pending := p.pending ++ [pad] }, 0)

/-- Binds the pads of a queue in turn. -/
def placeAll (p : Pool η) : List (OpenPad η) → Pool η × Nat
  | [] => (p, 0)
  | pad :: rest =>
    let (p, n) := p.place pad
    let (p, m) := p.placeAll rest
    (p, n + m)

/-- A slot's place among the free ones. -/
def insertFree (i : Nat) : List Nat → List Nat
  | [] => [i]
  | j :: rest => if j < i then j :: insertFree i rest else i :: j :: rest

/-- The slot rests, is free again and has lost its input. -/
def vacate (p : Pool η) (i : Nat) : Pool η :=
  if p.free.contains i then p
  else { p.modifySlot i fun _ => ⟨.neutral, true⟩ with free := insertFree i p.free }

def bindingOf? (p : Pool η) (i : Nat) : Option (Binding η) := p.bindings.find? (·.slot == i)

/-- Takes a binding out and frees its slot. -/
def unbind (p : Pool η) (b : Binding η) : Pool η :=
  { p with
    bindings := p.bindings.eraseP fun x => x.slot == b.slot && x.pad.info.id == b.pad.info.id
    openIds := p.openIds.filter (· != b.pad.info.id) : Pool η }.vacate b.slot

/-- Whether the slot lost its input since the last such question. -/
def takeLoss (p : Pool η) (i : Nat) : Bool × Pool η :=
  (((p.slots[i]?).map (·.isLost)).getD false, p.modifySlot i fun s => { s with isLost := false })

/-- Bindings by slot. -/
def assignments (p : Pool η) : List BindingInfo :=
  (p.bindings.mergeSort fun a b => a.slot ≤ b.slot).map fun b =>
    ⟨.ofNat b.slot, b.pad.info.id, b.pad.info.name, b.pad.profile⟩

def inputs (p : Pool η) (i : Nat) : Option Snapshot := (p.slots[i]?).map (·.inputs)

end Pool

/-! ## opening pads -/

section
variable {β η : Type} [PadBackend β η]

/-- Gives up a pad. -/
def giveUp {α : Type} (h : η) (answer : α) (b : β) : α × β := (answer, PadBackend.discard b h)

/-- A pad ready for use, or nothing for a device without objects. What fails on the way is closed again. -/
def prepare (b : β) (info : PadInfo) : Except PadError (Option (OpenPad η)) × β :=
  match PadBackend.openPad b info.id with
  | (.error e, b) => (.error e, b)
  | (.ok h, b) =>
    match PadBackend.objectCounts b h with
    | (.error e, b) => giveUp h (.error e) b
    | (.ok counts, b) =>
      match Profile.classify counts with
      | none => giveUp h (.ok none) b
      | some profile =>
        match PadBackend.capture b h with
        | (.error e, b) => giveUp h (.error e) b
        | (.ok (), b) =>
          match PadBackend.claim b h with
          | (.error e, b) => giveUp h (.error e) b
          | (.ok (), b) => (.ok (some ⟨info, profile, h⟩), b)

/-- Releases a pad and closes it; a refusal changes nothing about that. -/
def releasePad (b : β) (pad : OpenPad η) : β := PadBackend.discard (PadBackend.release b pad.handle).2 pad.handle

/-- Fresh raw state of a pad. -/
def readPad (b : β) (pad : OpenPad η) : Except PadError RawState × β :=
  match PadBackend.poll b pad.handle with
  | (.error e, b) => (.error e, b)
  | (.ok (), b) => PadBackend.read b pad.handle

end

/-! ## the pool over a backend -/

/-- Pads bound to a pool, and the backend they are reached through. -/
structure PadSource (β η : Type) where
  pool : Pool η
  backend : β
deriving Repr

namespace PadSource

variable {β η : Type} [PadBackend β η]

def ofCount (n : Nat) (b : β) : PadSource β η := ⟨.ofCount n, b⟩

/-- Opens and places one listed pad, unless it is open already. -/
def adopt (s : PadSource β η) (report : ScanTally) (info : PadInfo) : PadSource β η × ScanTally :=
  if s.pool.openIds.contains info.id then (s, report)
  else
    match prepare s.backend info with
    | (.ok (some pad), b) =>
      let (pool, n) := { s.pool with openIds := s.pool.openIds ++ [info.id] : Pool η }.place pad
      (⟨pool, b⟩, { report with bound := report.bound + n })
    | (.ok none, b) => ({ s with backend := b }, { report with skipped := report.skipped + 1 })
    | (.error _, b) => ({ s with backend := b }, { report with failed := report.failed + 1 })

def adoptAll (s : PadSource β η) (report : ScanTally) : List PadInfo → PadSource β η × ScanTally
  | [] => (s, report)
  | info :: rest =>
    let (s, report) := s.adopt report info
    s.adoptAll report rest

/-- One pass: the queue first, then what is newly attached. -/
def scan (s : PadSource β η) : ScanTally × PadSource β η :=
  let (pool, bound) := { s.pool with pending := [] : Pool η }.placeAll s.pool.pending
  let s : PadSource β η := { s with pool := pool }
  let report : ScanTally := ⟨bound, 0, 0, 0⟩
  let (s, report) :=
    match PadBackend.enumerate s.backend with
    | (.error _, b) => ({ s with backend := b }, report)
    | (.ok attached, b) => adoptAll { s with backend := b } report attached
  ({ report with pending := s.pool.pending.length }, s)

/-- Releases the pad of a binding and frees its slot. -/
def dissolve (s : PadSource β η) (b : Binding η) : PadSource β η :=
  ⟨s.pool.unbind b, releasePad s.backend b.pad⟩

/-- Reads fresh state into a slot. -/
def refresh [Arithmetic] (s : PadSource β η) (i : Nat) :
    Except UnknownSlot RefreshResult × PadSource β η :=
  if s.pool.size ≤ i then (.error ⟨i⟩, s)
  else
    match s.pool.bindingOf? i with
    | none => (.ok .unassigned, s)
    | some b =>
      match readPad s.backend b.pad with
      | (.ok raw, backend) =>
        (.ok .updated,
          ⟨s.pool.modifySlot i fun x => { x with inputs := b.pad.profile.translate raw }, backend⟩)
      | (.error _, backend) => (.ok .released, dissolve { s with backend := backend } b)

/-- Drops what is bound to a slot, and says whether anything was. -/
def release (s : PadSource β η) (i : Nat) : Except UnknownSlot Bool × PadSource β η :=
  if s.pool.size ≤ i then (.error ⟨i⟩, s)
  else
    match s.pool.bindingOf? i with
    | none => (.ok false, s)
    | some b => (.ok true, s.dissolve b)

/-- Drops a pad that waits for a slot. -/
def releasePending (s : PadSource β η) (pad : OpenPad η) : PadSource β η :=
  ⟨{ s.pool with openIds := s.pool.openIds.filter (· != pad.info.id) }, releasePad s.backend pad⟩

/-- Drops every binding, in the order they were made, then every waiting pad. -/
def dissolveAll (s : PadSource β η) : PadSource β η :=
  let bound := s.pool.bindings
  let waiting := s.pool.pending
  let s := bound.foldl dissolve s
  let s := waiting.foldl releasePending s
  { s with pool := { s.pool with pending := [] } }

def refreshAll [Arithmetic] (s : PadSource β η) : PadSource β η :=
  (List.range s.pool.size).foldl (fun s i => (s.refresh i).2) s

instance [Arithmetic] : SnapshotSource (PadSource β η) where
  deviceCount s := s.pool.size
  update := refreshAll
  refreshOne s i := (s.refresh i).2
  inputs s i := s.pool.inputs i
  takeLoss s i :=
    let (lost, pool) := s.pool.takeLoss i
    (lost, { s with pool := pool })

end PadSource
end GamepadPool
