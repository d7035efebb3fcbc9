import GamepadPool.CommandLine
import GamepadPool.LogDirective
import GamepadPool.Pad.InputDirectory
import GamepadPool.Pad.Scripted
import GamepadPool.Server
import GamepadPool.Settings
import GamepadPool.Socket
/-! # The server as a program
Settings are read, or written where there are none; then the log level is read, the lock is taken and the pool is
served. -/

namespace GamepadPool

/-! ## settings files -/

/-- Why the settings cannot be had. -/
inductive LoadError where
  | create (path cause : String)
  | write (path cause : String)
  | read (path cause : String)
  | invalid (path : String) (e : SettingsError)
deriving DecidableEq, Repr

namespace LoadError

/-- The outermost cause alone. -/
def headline : LoadError → String
  | create path _ => "Failed to create " ++ path
  | write path _ => "Failed to write " ++ path
  | read path _ => "Failed to read " ++ path
  | invalid path _ => "Invalid config " ++ path

/-- The cause behind it. -/
def cause : LoadError → String
  | create _ cause | write _ cause | read _ cause => cause
  | invalid _ e => e.message

def message (e : LoadError) : String := e.headline ++ ": " ++ e.cause

end LoadError

/-- Writes the default settings, with the directories that lead to them. -/
def Settings.writeDefaults (t : FileTree) (path : String) : Except LoadError Settings × FileTree :=
  let above := (Path.parent? path).getD ""
  match t.makeAll above with
  | (.error e, t) => (.error (.create above e.message), t)
  | (.ok (), t) =>
    match t.openForWriting path with
    | .error e => (.error (.write path e.message), t)
    | .ok place => (.ok .default, t.put place Settings.default.text)

/-- Reads the settings at a path. Where nothing is, the defaults are written there first. -/
def Settings.load (t : FileTree) (path : String) : Except LoadError Settings × FileTree :=
  if t.isThere path then
    match t.read path with
    | .error e => (.error (.read path e.message), t)
    | .ok text => ((Settings.parse text).mapError (.invalid path), t)
  else Settings.writeDefaults t path

/-! ## sources a server can have -/

/-- Where the inputs of a pool come from. -/
inductive Supply where
  | feed (f : Feed)
  | jointFeed (f : JointFeed)
  | scripted (s : PadSource (Obstructed ScriptedPads) PadId)
  | eventNodes (s : PadSource (Obstructed InputDirectory) Nat)
deriving Repr

namespace Supply

def ofFeed (n : Nat) : Supply := .feed (.ofCount n)

def ofJointFeed (n : Nat) : Supply := .jointFeed ⟨.ofCount n⟩

def ofScripted (n : Nat) : Supply := .scripted (.ofCount n ⟨.empty, false⟩)

def ofEventNodes (n : Nat) : Supply := .eventNodes (.ofCount n ⟨.empty, false⟩)

variable [Arithmetic]

instance : SnapshotSource Supply where
  deviceCount
    | .feed f => SnapshotSource.deviceCount f
    | .jointFeed f => SnapshotSource.deviceCount f
    | .scripted s => SnapshotSource.deviceCount s
    | .eventNodes s => SnapshotSource.deviceCount s
  update
    | .feed f => .feed (SnapshotSource.update f)
    | .jointFeed f => .jointFeed (SnapshotSource.update f)
    | .scripted s => .scripted (SnapshotSource.update s)
    | .eventNodes s => .eventNodes (SnapshotSource.update s)
  refreshOne
    | .feed f, i => .feed (SnapshotSource.refreshOne f i)
    | .jointFeed f, i => .jointFeed (SnapshotSource.refreshOne f i)
    | .scripted s, i => .scripted (SnapshotSource.refreshOne s i)
    | .eventNodes s, i => .eventNodes (SnapshotSource.refreshOne s i)
  inputs
    | .feed f, i => SnapshotSource.inputs f i
    | .jointFeed f, i => SnapshotSource.inputs f i
    | .scripted s, i => SnapshotSource.inputs s i
    | .eventNodes s, i => SnapshotSource.inputs s i
  takeLoss
    | .feed f, i => let (b, f) := SnapshotSource.takeLoss f i; (b, .feed f)
    | .jointFeed f, i => let (b, f) := SnapshotSource.takeLoss f i; (b, .jointFeed f)
    | .scripted s, i => let (b, s) := SnapshotSource.takeLoss s i; (b, .scripted s)
    | .eventNodes s, i => let (b, s) := SnapshotSource.takeLoss s i; (b, .eventNodes s)

instance : ServedSource Supply where
  submit?
    | .feed f, i, x => (ServedSource.submit? f i x).map (·.map .feed)
    | .jointFeed f, i, x => (ServedSource.submit? f i x).map (·.map .jointFeed)
    | .scripted _, _, _ => none
    | .eventNodes _, _, _ => none
  assignments
    | .feed f => ServedSource.assignments f
    | .jointFeed f => ServedSource.assignments f
    | .scripted s => ServedSource.assignments s
    | .eventNodes s => ServedSource.assignments s

/-- The source that settings ask for; event nodes start with none. -/
def ofSettings (s : Settings) : Supply :=
  match s.source with
  | .feed => ofFeed s.deviceCount
  | .physical => ofEventNodes s.deviceCount

/-- What breaks when the pads of a source are listed. -/
def listingFault? : Supply → Option TitleFault
  | .eventNodes s => if s.backend.enumerationFails then none else s.backend.backend.listingFault?
  | _ => none

/-- A scan nobody waits for, of a source that can be scanned. A listing that breaks counts as one that fails. -/
def scanUnattended (s : Supply) : Supply :=
  match s with
  | .scripted x => .scripted x.scan.2
  | .eventNodes x =>
    if s.listingFault?.isNone then .eventNodes x.scan.2
    else
      let x := { x with backend := { x.backend with enumerationFails := true } }.scan.2
      .eventNodes { x with backend := { x.backend with enumerationFails := false } }
  | s => s

/-- What breaks when a pad is opened by hand. -/
def openingFault? (id : PadId) : Supply → Option TitleFault
  | .eventNodes s => s.backend.backend.openingFault? id
  | _ => none

end Supply

/-- The interface that settings ask for. -/
def Settings.interface (s : Settings) : Interface := ⟨s.charset, .standard, s.filter⟩

/-! ## starting -/

/-- Why the program ends before it serves anybody. -/
inductive Refusal where
  | information
  | misuse
  | settings (e : LoadError)
  /-- The log level breaks off inside a character. -/
  | logLevel (logLevel : String)
  | lock (logLevel : String) (e : LockError)
  | listen (logLevel : String) (e : ListenError)
deriving DecidableEq, Repr

namespace Refusal

def exitCode : Refusal → Nat
  | information => 0
  | misuse => 2
  | settings _ | lock .. | listen .. => 1
  | logLevel _ => 101

/-- The diagnosis line by line, as far as it is the program's own. Once the settings are read, complaints about the
log level come first. -/
def diagnosis : Refusal → List String
  | information | misuse => []
  | settings e => ["Error: " ++ e.headline]
  | logLevel level => (LogDirective.ignored level).map LogDirective.complaint
  | lock level _ => (LogDirective.ignored level).map LogDirective.complaint ++ ["Error: Failed to start manager"]
  | listen level e => (LogDirective.ignored level).map LogDirective.complaint ++ ["Error: " ++ e.message]

end Refusal

/-- A program that serves. -/
structure Daemon where
  server : Server Supply
  lock : Place
  socket : String

namespace Daemon

/-- Takes the lock, then the socket's place. A lock is given up again when the socket cannot be had. -/
def occupy (l : LockedFiles) (settings : Settings) (socket holder : String) :
    Except Refusal Place × LockedFiles :=
  match l.start socket holder with
  | (.error e, l) => (.error (.lock settings.logLevel e), l)
  | (.ok lock, l) =>
    match l.listen socket with
    | (.error e, l) => (.error (.listen settings.logLevel e), l.release lock)
    | (.ok (), l) => (.ok lock, l)

/-- Starts the program. -/
def start (l : LockedFiles) (user holder : String) (args : List String) : Except Refusal Daemon × LockedFiles :=
  match Invocation.ofArguments args with
  | .information => (.error .information, l)
  | .misuse => (.error .misuse, l)
  | .run o =>
    match Settings.load l.tree o.settings with
    | (.error e, tree) => (.error (.settings e), { l with tree := tree })
    | (.ok settings, tree) =>
      let socket := o.socket.getD (instanceSocket user o.instanceNumber)
      if !LogDirective.isReadable settings.logLevel then
        (.error (.logLevel settings.logLevel), { l with tree := tree })
      else
        match occupy { l with tree := tree } settings socket holder with
        | (.error e, l) => (.error e, l)
        | (.ok lock, l) =>
          (.ok ⟨.start settings.interface (Supply.ofSettings settings), lock, socket⟩, l)

/-- Ends the program: the socket goes, the lock file stays. -/
def stop (d : Daemon) (l : LockedFiles) : LockedFiles := (l.remove d.socket).release d.lock

end Daemon
end GamepadPool
