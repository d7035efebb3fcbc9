import GamepadPool.Command
import GamepadPool.Session
import GamepadPool.Wire.Message
/-! # The server
Lines come in on any number of connections, and every line that is a message is answered on its connection. A
session belongs to the connection that made it; the numbers of sessions and the source of inputs are shared. -/

namespace GamepadPool

/-- A source as a server sees it: fed by clients, or by pads. -/
class ServedSource (σ : Type) extends SnapshotSource σ where
  /-- Stages a frame; nothing where inputs come from pads. -/
  submit? : σ → Nat → Snapshot → Option (Except DeviceError σ)
  assignments : σ → List BindingInfo

instance : ServedSource Feed where
  submit? f i s := some (f.submit i s)
  assignments _ := []

instance : ServedSource JointFeed where
  submit? f i s := some ((f.feed.submit i s).map JointFeed.mk)
  assignments _ := []

instance {β η : Type} [PadBackend β η] [Arithmetic] : ServedSource (PadSource β η) where
  submit? _ _ _ := none
  assignments s := s.pool.assignments

/-- What all connections share. -/
structure Host (σ : Type) where
  interface : Interface
  source : σ
  /-- Number of the next session. -/
  nextSession : Nat
deriving Repr

/-- The sessions of one connection, by number. -/
abbrev Sessions := List (UInt64 × Session)

namespace Sessions

def find? (ss : Sessions) (n : UInt64) : Option Session := ss.lookup n

def put (ss : Sessions) (n : UInt64) (s : Session) : Sessions :=
  ss.map fun p => if p.1 = n then (n, s) else p

def erase (ss : Sessions) (n : UInt64) : Sessions := ss.filter (·.1 != n)

/-- A session that had the number before is gone. -/
def add (ss : Sessions) (n : UInt64) (s : Session) : Sessions := ss.erase n ++ [(n, s)]

end Sessions

/-! ## commands -/

def noSuchSession (n : UInt64) : Answer := .failure s!"Session {n.toNat} not found"

/-- What a session command did: its answer, the session after it, and the source after it. -/
abbrev Served (σ : Type) := Answer × Session × σ

namespace Served

variable {σ : Type}

/-- An answer that changes nothing. -/
def answer (a : Answer) (s : Session) (source : σ) : Served σ := (a, s, source)

/-- The changed session, or the reason why nothing changed. -/
def update {ε : Type} (f : ε → DeviceError) (r : Except ε Session) (s : Session) (source : σ) : Served σ :=
  match r with
  | .ok s => (.ok, s, source)
  | .error e => (.error (f e), s, source)

end Served

variable {σ : Type} [ServedSource σ] [Arithmetic]

/-- Serves a command on a session. -/
def Session.serve (s : Session) (source : σ) : SessionCommand → Served σ
  | .capabilities => .answer (.capabilities s.capabilities) s source
  | .info => .answer (.deviceInfo s.info) s source
  | .listObjects filter => .answer (.objects (s.objects filter)) s source
  | .setFormat format => .update FormatError.toDeviceError (s.setFormat format) s source
  | .setCooperation _ => .answer .ok s source
  | .acquire => .answer .ok s.acquire source
  | .unacquire => .answer .ok s.unacquire source
  | .getProperty p t =>
    match s.getProperty p t with
    | .ok v => .answer (.property v) s source
    | .error e => .answer (.error e.toDeviceError) s source
  | .setProperty p t v => .update PropertyError.toDeviceError (s.setProperty p t v) s source
  | .poll =>
    match s.poll source with
    | (.ok (), source) => .answer .ok s source
    | (.error e, source) => .answer (.error e) s source
  | .readState size =>
    match s.read source size.toNat with
    | .ok bytes => .answer (.state bytes) s source
    | .error e => .answer (.error e.toDeviceError) s source

namespace Host

/-- Sessions are numbered from one. -/
def start (i : Interface) (source : σ) : Host σ := ⟨i, source, 1⟩

def create (h : Host σ) (ss : Sessions) (id : DeviceId) : Answer × Host σ × Sessions :=
  match h.interface.create (SnapshotSource.deviceCount h.source) id with
  | .ok s =>
    let n := UInt64.ofNat h.nextSession
    (.deviceCreated n, { h with nextSession := h.nextSession + 1 }, ss.add n s)
  | .error e => (.error e, h, ss)

def destroy (h : Host σ) (ss : Sessions) (n : UInt64) : Answer × Host σ × Sessions :=
  match ss.find? n with
  | some _ => (.deviceDestroyed, h, ss.erase n)
  | none => (noSuchSession n, h, ss)

def submit (h : Host σ) (ss : Sessions) (index : Nat) (inputs : Snapshot) : Answer × Host σ × Sessions :=
  match ServedSource.submit? h.source index inputs with
  | some (.ok source) => (.ok, { h with source := source }, ss)
  | some (.error e) => (.error e, h, ss)
  | none => (.failure "Inputs come from physical devices", h, ss)

/-- Serves a command on a session of the connection. -/
def onSession (h : Host σ) (ss : Sessions) (n : UInt64) (c : SessionCommand) : Answer × Host σ × Sessions :=
  match ss.find? n with
  | none => (noSuchSession n, h, ss)
  | some s =>
    match s.serve h.source c with
    | (a, s, source) => (a, { h with source := source }, ss.put n s)

/-- Serves a command of one connection. -/
def serve (h : Host σ) (ss : Sessions) (c : Command) : Answer × Host σ × Sessions :=
  match c with
  | .ping => (.pong, h, ss)
  | .listDevices cls flags =>
    (.devices (h.interface.devices (SnapshotSource.deviceCount h.source) cls flags), h, ss)
  | .openSession id => h.create ss id
  | .closeSession n => h.destroy ss n
  | .onSession n c => h.onSession ss n c
  | .submitFrame index inputs => h.submit ss index.toNat inputs
  | .listAssignments => (.assignments (ServedSource.assignments h.source), h, ss)

/-- Answers a line, if it is a message. -/
def answerLine (h : Host σ) (ss : Sessions) (line : String) : Option String × Host σ × Sessions :=
  match (Wire.read? line : Option Message) with
  | none => (none, h, ss)
  | some m =>
    match h.serve ss m.command with
    | (a, h, ss) => (some (Wire.write (Reply.mk m.id a)), h, ss)

end Host

/-! ## connections -/

/-- Bytes cut after each line feed; what follows the last one counts as a line too. -/
def splitLines : List UInt8 → List (List UInt8)
  | [] => []
  | b :: rest =>
    if b = 10 then [b] :: splitLines rest
    else
      match splitLines rest with
      | [] => [[b]]
      | line :: lines => (b :: line) :: lines

/-- The text of a line, if it is one. -/
def decodeLine? (bytes : List UInt8) : Option String := String.fromUTF8? ⟨bytes.toArray⟩

/-- What lines did to one connection. -/
structure Exchange (σ : Type) where
  replies : List String
  host : Host σ
  /-- None once the connection has ended. -/
  sessions : Option Sessions

namespace Exchange

/-- Lines in turn; one that is no text ends the connection. -/
def run (h : Host σ) (ss : Sessions) : List (List UInt8) → Exchange σ
  | [] => ⟨[], h, some ss⟩
  | line :: rest =>
    match decodeLine? line with
    | none => ⟨[], h, none⟩
    | some text =>
      match h.answerLine ss text with
      | (reply, h, ss) =>
        let x := run h ss rest
        { x with replies := reply.toList ++ x.replies }

/-- Lines of a peer that does not wait for its answers: the first message is served and ends it all. -/
def runUnheard (h : Host σ) (ss : Sessions) : List (List UInt8) → Host σ
  | [] => h
  | line :: rest =>
    match decodeLine? line with
    | none => h
    | some text =>
      match h.answerLine ss text with
      | (some _, h, _) => h
      | (none, h, ss) => runUnheard h ss rest

end Exchange

/-- A connection's sessions, or the fact that it has ended. -/
inductive Connection where
  | live (sessions : Sessions)
  | ended
deriving Repr

structure Server (σ : Type) where
  host : Host σ
  connections : List (Nat × Connection)
deriving Repr

namespace Server

def start (i : Interface) (source : σ) : Server σ := ⟨.start i source, []⟩

/-- A connection not seen before is a new one. -/
def connection (s : Server σ) (k : Nat) : Connection := (s.connections.lookup k).getD (.live [])

def setConnection (s : Server σ) (k : Nat) (c : Connection) : Server σ :=
  { s with connections := (k, c) :: s.connections.filter (·.1 != k) }

/-- Bytes that arrive on a connection, the last line complete. Says whether the connection is still there. -/
def receive (s : Server σ) (k : Nat) (bytes : List UInt8) : List String × Bool × Server σ :=
  match s.connection k with
  | .ended => ([], false, s)
  | .live ss =>
    let x := Exchange.run s.host ss (splitLines bytes)
    let s := { s with host := x.host }
    match x.sessions with
    | some ss => (x.replies, true, s.setConnection k (.live ss))
    | none => (x.replies, false, s.setConnection k .ended)

/-- The sessions of a closed connection end with it. -/
def close (s : Server σ) (k : Nat) : Server σ := s.setConnection k .ended

/-- A peer that sends its bytes and is gone. -/
def hangUp (s : Server σ) (bytes : List UInt8) : Server σ :=
  { s with host := Exchange.runUnheard s.host [] (splitLines bytes) }

end Server
end GamepadPool
