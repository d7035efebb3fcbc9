import GamepadPool.Wire.Describe
import GamepadPool.Wire.Message
/-! # The client
A call sends one command and accepts exactly one kind of answer under the identifier it sent. -/

namespace GamepadPool

/-- Why a call has no result. -/
inductive CallError where
  /-- The other side had hung up before the request. -/
  | unsent
  /-- The other side hung up instead of answering. -/
  | closed
  /-- What came back is no text. -/
  | notText
  | unreadable (line : String)
  | foreignReply (expected got : String)
  /-- The device call failed; its cause is kept. -/
  | refused (call : String) (cause : DeviceError)
  | failed (call message : String)
  | unexpected (call : String) (answer : Answer)
deriving DecidableEq, Repr

namespace CallError

def message : CallError → String
  | unsent => "Broken pipe (os error 32)"
  | closed => "Manager closed the connection"
  | notText => "stream did not contain valid UTF-8"
  | unreadable line => "Failed to parse response: " ++ line
  | foreignReply expected got => "Response ID mismatch: expected " ++ expected ++ ", got " ++ got
  | refused call _ => call ++ " failed"
  | failed call m => call ++ " failed: " ++ m
  | unexpected call a => "Unexpected response to " ++ call ++ ": " ++ a.describe

/-- The device error behind a failed call. -/
def deviceError? : CallError → Option DeviceError
  | refused _ e => some e
  | _ => none

end CallError

/-- A connection as its client sees it. -/
structure Link where
  /-- Lines that came in and were not read yet. -/
  waiting : List String
  /-- The other side has not hung up. -/
  isOpen : Bool
deriving DecidableEq, Repr

namespace Link

def fresh : Link := ⟨[], true⟩

/-- The lines of a text, each with its end; the last one need not have it. -/
def linesOf (text : String) : List String :=
  (text.toList.splitOn '\n').map fun line => String.ofList (line ++ ['\n'])

/-- Sends a request, which the other side answers with a text or by hanging up, and reads one line. A request
cannot be sent once the other side has hung up. -/
def exchange (l : Link) (reply : Option String) : Except CallError (Option String) × Link :=
  if l.isOpen then
    let waiting := l.waiting ++ (reply.map linesOf).getD []
    (.ok waiting.head?, ⟨waiting.drop 1, reply.isSome⟩)
  else (.error .unsent, l)

end Link

/-- One call: its name in diagnostics, the command it sends, and the answer it accepts. -/
structure Call (α : Type) where
  name : String
  command : Command
  accept : Answer → Option α

namespace Call

variable {α : Type}

/-- The line that is sent. -/
def request (c : Call α) (id : String) : String := Wire.write (Message.mk id c.command)

/-- An answer that is not the accepted one. -/
def reject (c : Call α) : Answer → CallError
  | .error e => .refused c.name e
  | .failure m => .failed c.name m
  | a => .unexpected c.name a

def judge (c : Call α) (a : Answer) : Except CallError α :=
  match c.accept a with
  | some x => .ok x
  | none => .error (c.reject a)

/-- The outcome of a call from the line that came back, if one did. -/
def outcome (c : Call α) (id : String) : Option String → Except CallError α
  | none => .error .closed
  | some line =>
    match (Wire.read? line : Option Reply) with
    | none => .error (.unreadable line)
    | some r => if r.id = id then c.judge r.answer else .error (.foreignReply id r.id)

/-! ## calls on the server -/

def acceptOk : Answer → Option Unit
  | .ok => some ()
  | _ => none

def ping : Call Unit := ⟨"Ping", .ping, fun | .pong => some () | _ => none⟩

def listDevices (cls : DeviceFamily) (flags : UInt32) : Call (List DeviceInfo) :=
  ⟨"EnumDevices", .listDevices cls flags, fun | .devices l => some l | _ => none⟩

/-- The number of the new session. -/
def openSession (id : DeviceId) : Call UInt64 :=
  ⟨"CreateDevice", .openSession id, fun | .deviceCreated s => some s | _ => none⟩

def submitFrame (index : UInt64) (inputs : Snapshot) : Call Unit :=
  ⟨"SubmitInputs", .submitFrame index inputs, acceptOk⟩

def listAssignments : Call (List BindingInfo) :=
  ⟨"ListAssignments", .listAssignments, fun | .assignments l => some l | _ => none⟩

/-- Any command, with any answer. -/
def raw (c : Command) : Call Answer := ⟨"", c, some⟩

/-! ## calls on a session -/

def capabilities (s : UInt64) : Call Capabilities :=
  ⟨"GetCapabilities", .onSession s .capabilities, fun | .capabilities c => some c | _ => none⟩

def deviceInfo (s : UInt64) : Call DeviceInfo :=
  ⟨"GetDeviceInfo", .onSession s .info, fun | .deviceInfo i => some i | _ => none⟩

def listObjects (s : UInt64) (filter : UInt32) : Call (List ObjectInfo) :=
  ⟨"EnumObjects", .onSession s (.listObjects filter), fun | .objects l => some l | _ => none⟩

def setFormat (s : UInt64) (f : BufferFormat) : Call Unit :=
  ⟨"SetDataFormat", .onSession s (.setFormat f), acceptOk⟩

def setCooperation (s : UInt64) (flags : UInt32) : Call Unit :=
  ⟨"SetCooperativeLevel", .onSession s (.setCooperation flags), acceptOk⟩

def acquire (s : UInt64) : Call Unit := ⟨"Acquire", .onSession s .acquire, acceptOk⟩

def unacquire (s : UInt64) : Call Unit := ⟨"Unacquire", .onSession s .unacquire, acceptOk⟩

def getProperty (s : UInt64) (p : Property) (t : PropertyAddress) : Call PropertyValue :=
  ⟨"GetProperty", .onSession s (.getProperty p t), fun | .property v => some v | _ => none⟩

def setProperty (s : UInt64) (p : Property) (t : PropertyAddress) (v : PropertyValue) : Call Unit :=
  ⟨"SetProperty", .onSession s (.setProperty p t v), acceptOk⟩

def poll (s : UInt64) : Call Unit := ⟨"Poll", .onSession s .poll, acceptOk⟩

def readState (s : UInt64) (size : UInt64) : Call (List UInt8) :=
  ⟨"GetDeviceState", .onSession s (.readState size), fun | .state bytes => some bytes | _ => none⟩

/-- What dropping a session sends; nobody waits for the answer. -/
def closeSession (s : UInt64) : Call Answer := raw (.closeSession s)

end Call
end GamepadPool
