import GamepadPool.Command
import GamepadPool.Json.Parser
import GamepadPool.Json.Printer
import GamepadPool.Wire.Records
/-! # Messages as lines of JSON -/

namespace GamepadPool

namespace Wire

/-- The value of the only field of a record. -/
def field? {α : Type} [Wire α] (name : String) (x : Json) : Option α :=
  match x.columns? [name] with
  | some [a] => required a
  | _ => none

/-- The values of the two fields of a record. -/
def fields? {α β : Type} [Wire α] [Wire β] (first second : String) (x : Json) : Option (α × β) :=
  match x.columns? [first, second] with
  | some [a, b] =>
    match required a, required b with
    | some a, some b => some (a, b)
    | _, _ => none
  | _ => none

def getProperty? (x : Json) : Option (UInt64 × SessionCommand) :=
  match x.columns? ["session", "property", "target"] with
  | some [s, p, t] =>
    match required s, required p, required t with
    | some s, some p, some t => some (s, .getProperty p t)
    | _, _, _ => none
  | _ => none

def setProperty? (x : Json) : Option (UInt64 × SessionCommand) :=
  match x.columns? ["session", "property", "target", "value"] with
  | some [s, p, t, v] =>
    match required s, required p, required t, required v with
    | some s, some p, some t, some v => some (s, .setProperty p t v)
    | _, _, _, _ => none
  | _ => none

/-- A command that is given by its session alone. -/
def bare? (c : SessionCommand) (x : Json) : Option (UInt64 × SessionCommand) :=
  (field? "session" x).map fun s => (s, c)

/-- A command with one field beside its session. -/
def withField? {α : Type} [Wire α] (name : String) (f : α → SessionCommand) (x : Json) :
    Option (UInt64 × SessionCommand) :=
  (fields? "session" name x).map fun p => (p.1, f p.2)

def sessionCommandName : SessionCommand → String
  | .capabilities => "GetCapabilities"
  | .info => "GetDeviceInfo"
  | .listObjects _ => "EnumObjects"
  | .setFormat _ => "SetDataFormat"
  | .setCooperation _ => "SetCooperativeLevel"
  | .acquire => "Acquire"
  | .unacquire => "Unacquire"
  | .getProperty .. => "GetProperty"
  | .setProperty .. => "SetProperty"
  | .poll => "Poll"
  | .readState _ => "GetDeviceState"

def sessionCommandFields : SessionCommand → List (String × Json)
  | .listObjects filter => [("filter", toJson filter)]
  | .setFormat format => [("format", toJson format)]
  | .setCooperation flags => [("flags", toJson flags)]
  | .getProperty p t => [("property", toJson p), ("target", toJson t)]
  | .setProperty p t v => [("property", toJson p), ("target", toJson t), ("value", toJson v)]
  | .readState size => [("size", toJson size)]
  | .capabilities | .info | .acquire | .unacquire | .poll => []

/-- A command on a session, by its name. -/
def sessionCommand? (name : String) (x : Json) : Option (UInt64 × SessionCommand) :=
  match name with
  | "GetCapabilities" => bare? .capabilities x
  | "GetDeviceInfo" => bare? .info x
  | "EnumObjects" => withField? "filter" .listObjects x
  | "SetDataFormat" => withField? "format" .setFormat x
  | "SetCooperativeLevel" => withField? "flags" .setCooperation x
  | "Acquire" => bare? .acquire x
  | "Unacquire" => bare? .unacquire x
  | "GetProperty" => getProperty? x
  | "SetProperty" => setProperty? x
  | "Poll" => bare? .poll x
  | "GetDeviceState" => withField? "size" .readState x
  | _ => none

instance : Wire Command where
  toJson
    | .ping => .text "Ping"
    | .listDevices c flags => .tagged "EnumDevices" (.record [("class", toJson c), ("flags", toJson flags)])
    | .openSession id => .tagged "CreateDevice" (.record [("guid", toJson id)])
    | .closeSession n => .tagged "DestroyDevice" (.record [("session", toJson n)])
    | .onSession n c =>
      .tagged (sessionCommandName c) (.record (("session", toJson n) :: sessionCommandFields c))
    | .submitFrame index inputs =>
      .tagged "SubmitInputs" (.record [("index", toJson index), ("inputs", toJson inputs)])
    | .listAssignments => .text "ListAssignments"
  ofJson? j :=
    match j.variant? with
    | some ("EnumDevices", some x) => (fields? "class" "flags" x).map fun p => .listDevices p.1 p.2
    | some ("CreateDevice", some x) => (field? "guid" x).map .openSession
    | some ("DestroyDevice", some x) => (field? "session" x).map .closeSession
    | some ("SubmitInputs", some x) => (fields? "index" "inputs" x).map fun p => .submitFrame p.1 p.2
    | some ("Ping", none) | some ("Ping", some .null) => some .ping
    | some ("ListAssignments", none) | some ("ListAssignments", some .null) => some .listAssignments
    | some (name, some x) => (sessionCommand? name x).map fun p => .onSession p.1 p.2
    | _ => none

instance : Wire Answer where
  toJson
    | .pong => .text "Pong"
    | .devices l => .tagged "Devices" (toJson l)
    | .deviceCreated s => .tagged "DeviceCreated" (.record [("session", toJson s)])
    | .deviceDestroyed => .text "DeviceDestroyed"
    | .capabilities c => .tagged "Capabilities" (toJson c)
    | .deviceInfo i => .tagged "DeviceInfo" (toJson i)
    | .objects l => .tagged "Objects" (toJson l)
    | .ok => .text "Ok"
    | .property v => .tagged "Property" (toJson v)
    | .state bytes => .tagged "State" (toJson bytes)
    | .assignments l => .tagged "Assignments" (toJson l)
    | .error e => .tagged "Error" (toJson e)
    | .failure m => .tagged "Failure" (.record [("message", toJson m)])
  ofJson? j :=
    match j.variant? with
    | some ("Devices", some x) => (ofJson? x).map .devices
    | some ("DeviceCreated", some x) => (field? "session" x).map .deviceCreated
    | some ("Capabilities", some x) => (ofJson? x).map .capabilities
    | some ("DeviceInfo", some x) => (ofJson? x).map .deviceInfo
    | some ("Objects", some x) => (ofJson? x).map .objects
    | some ("Property", some x) => (ofJson? x).map .property
    | some ("State", some x) => (ofJson? x).map .state
    | some ("Assignments", some x) => (ofJson? x).map .assignments
    | some ("Error", some x) => (ofJson? x).map .error
    | some ("Failure", some x) => (field? "message" x).map .failure
    | _ =>
      match j.unit? with
      | some "Pong" => some .pong
      | some "DeviceDestroyed" => some .deviceDestroyed
      | some "Ok" => some .ok
      | _ => none

instance : Wire Message where
  toJson m := .record [("id", toJson m.id), ("command", toJson m.command)]
  ofJson? j := (fields? "id" "command" j).map fun p => ⟨p.1, p.2⟩

instance : Wire Reply where
  toJson r := .record [("id", toJson r.id), ("result", toJson r.answer)]
  ofJson? j := (fields? "id" "result" j).map fun p => ⟨p.1, p.2⟩

/-- The text of a value on one line. -/
def write {α : Type} [Wire α] (a : α) : String := (toJson a).render

/-- The value a text stands for. -/
def read? {α : Type} [Wire α] (text : String) : Option α := (Json.parse? text.toList).bind ofJson?

end Wire
end GamepadPool
