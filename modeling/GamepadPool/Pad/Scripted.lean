import GamepadPool.Pad.Backend
/-! # Pads without hardware
Pads are plugged, unplugged and set by hand, and each operation on a pad can be told to fail. An open pad is
known by its identifier alone. -/

namespace GamepadPool

/-- The operations that can be told to fail. -/
inductive PadOperation where
  | openPad
  | objectCounts
  | capture
  | claim
  | poll
  | read
  | release
deriving DecidableEq, Repr, Inhabited

namespace PadOperation

def name : PadOperation → String
  | openPad => "Open"
  | objectCounts => "ObjectCounts"
  | capture => "SetCaptureFormat"
  | claim => "Claim"
  | poll => "Poll"
  | read => "ReadState"
  | release => "Release"

instance : Named PadOperation := ⟨[openPad, objectCounts, capture, claim, poll, read, release], name⟩

end PadOperation

structure ScriptedPad where
  name : String
  counts : ControlCounts
  raw : RawState
  isAttached : Bool
  isClaimed : Bool
  /-- Successful openings so far. -/
  opens : Nat
  failing : List PadOperation
deriving DecidableEq, Repr

/-- Pads in the order of their identifiers, one for each. -/
structure ScriptedPads where
  pads : List (PadId × ScriptedPad)
deriving DecidableEq, Repr

namespace ScriptedPads

def empty : ScriptedPads := ⟨[]⟩

def find? (s : ScriptedPads) (id : PadId) : Option ScriptedPad := s.pads.lookup id

/-- Changes a pad that is there. -/
def modify (s : ScriptedPads) (id : PadId) (f : ScriptedPad → ScriptedPad) : ScriptedPads :=
  ⟨s.pads.map fun p => if p.1 = id then (p.1, f p.2) else p⟩

/-- Puts a pad in its place, over one of the same identifier. -/
def insert (id : PadId) (pad : ScriptedPad) : List (PadId × ScriptedPad) → List (PadId × ScriptedPad)
  | [] => [(id, pad)]
  | p :: rest =>
    if id < p.1 then (id, pad) :: p :: rest
    else if id = p.1 then (id, pad) :: rest
    else p :: insert id pad rest

/-! ## the hand that plugs and unplugs -/

/-- A pad plugged in again starts afresh. -/
def attach (s : ScriptedPads) (id : PadId) (name : String) (counts : ControlCounts) : ScriptedPads :=
  ⟨insert id ⟨name, counts, .resting, true, false, 0, []⟩ s.pads⟩

def attachFull (s : ScriptedPads) (id : PadId) : ScriptedPads :=
  s.attach id "Wireless Controller" ⟨6, 14, 1⟩

def detach (s : ScriptedPads) (id : PadId) : ScriptedPads := s.modify id ({ · with isAttached := false })

def reattach (s : ScriptedPads) (id : PadId) : ScriptedPads := s.modify id ({ · with isAttached := true })

def setRaw (s : ScriptedPads) (id : PadId) (raw : RawState) : ScriptedPads :=
  s.modify id ({ · with raw := raw })

def fail (s : ScriptedPads) (id : PadId) (op : PadOperation) : ScriptedPads :=
  s.modify id fun p => if p.failing.contains op then p else { p with failing := op :: p.failing }

def recover (s : ScriptedPads) (id : PadId) (op : PadOperation) : ScriptedPads :=
  s.modify id fun p => { p with failing := p.failing.filter (· != op) }

/-! ## the backend -/

/-- An attached pad, if the operation is not told to fail. -/
def reach (s : ScriptedPads) (id : PadId) (op : PadOperation) : Except PadError ScriptedPad :=
  match s.find? id with
  | none => .error (.disconnected id)
  | some p =>
    if !p.isAttached then .error (.disconnected id)
    else if p.failing.contains op then
      .error (.rejected (match op with | .openPad => "open " ++ id | op => op.name ++ " on " ++ id))
    else .ok p

/-- An operation that answers from the pad and changes it. -/
def perform {α : Type} (s : ScriptedPads) (id : PadId) (op : PadOperation) (answer : ScriptedPad → α)
    (change : ScriptedPad → ScriptedPad) : Except PadError α × ScriptedPads :=
  match s.reach id op with
  | .ok p => (.ok (answer p), s.modify id change)
  | .error e => (.error e, s)

def attached (s : ScriptedPads) : List PadInfo :=
  (s.pads.filter (·.2.isAttached)).map fun p => ⟨p.1, p.2.name⟩

instance : PadBackend ScriptedPads PadId where
  enumerate s := (.ok s.attached, s)
  openPad s id := s.perform id .openPad (fun _ => id) fun p => { p with opens := p.opens + 1 }
  objectCounts s id := s.perform id .objectCounts (·.counts) (fun p => p)
  capture s id := s.perform id .capture (fun _ => ()) (fun p => p)
  claim s id := s.perform id .claim (fun _ => ()) ({ · with isClaimed := true })
  poll s id := s.perform id .poll (fun _ => ()) (fun p => p)
  read s id := s.perform id .read (·.raw) (fun p => p)
  release s id := s.perform id .release (fun _ => ()) ({ · with isClaimed := false })

end ScriptedPads
end GamepadPool
