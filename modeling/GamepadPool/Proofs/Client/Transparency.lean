import GamepadPool.Call
import GamepadPool.Proofs.Server.Sessions
import GamepadPool.Proofs.Wire.Messages
/-! # Devices behind a socket
A call through a client is written, read, served, answered and judged. All this together returns what the same call on
a device at hand returns, and leaves the same session and the same source behind; so no sequence of calls can tell a
remote device from a local one, whatever the source does in between. -/

namespace GamepadPool

/-! ## calls -/

namespace SessionCommand

/-- What the call returns. -/
def Value : SessionCommand → Type
  | capabilities => Capabilities
  | info => DeviceInfo
  | listObjects _ => List ObjectInfo
  | getProperty .. => PropertyValue
  | readState _ => List UInt8
  | setFormat _ | setCooperation _ | acquire | unacquire | setProperty .. | poll => Unit

/-- The call through a client, on session `n`. -/
def call (n : UInt64) : (c : SessionCommand) → Call c.Value
  | capabilities => .capabilities n
  | info => .deviceInfo n
  | listObjects filter => .listObjects n filter
  | setFormat format => .setFormat n format
  | setCooperation flags => .setCooperation n flags
  | acquire => .acquire n
  | unacquire => .unacquire n
  | getProperty p t => .getProperty n p t
  | setProperty p t v => .setProperty n p t v
  | poll => .poll n
  | readState size => .readState n size

end SessionCommand

/-- The same call on a device at hand. The state is rendered into a buffer of zeros. -/
def Session.call {σ : Type} [SnapshotSource σ] [Arithmetic] (x : Session) (source : σ) :
    (c : SessionCommand) → Except DeviceError c.Value × Session × σ
  | .capabilities => (.ok x.capabilities, x, source)
  | .info => (.ok x.info, x, source)
  | .listObjects filter => (.ok (x.objects filter), x, source)
  | .setFormat format =>
    match x.setFormat format with
    | .ok x => (.ok (), x, source)
    | .error e => (.error e.toDeviceError, x, source)
  | .setCooperation _ => (.ok (), x, source)
  | .acquire => (.ok (), x.acquire, source)
  | .unacquire => (.ok (), x.unacquire, source)
  | .getProperty p t => ((x.getProperty p t).mapError PropertyError.toDeviceError, x, source)
  | .setProperty p t v =>
    match x.setProperty p t v with
    | .ok x => (.ok (), x, source)
    | .error e => (.error e.toDeviceError, x, source)
  | .poll =>
    match x.poll source with
    | (result, source) => (result, x, source)
  | .readState size =>
    match x.fill source (List.replicate size.toNat 0) with
    | (.ok (), bytes) => (.ok bytes, x, source)
    | (.error e, _) => (.error e.toDeviceError, x, source)

/-- A client and its server. -/
structure Remote (σ : Type) where
  server : Server σ
  link : Link

/-! ## the line -/

theorem Link.exchange_fresh {line : String} (h : '\n' ∉ line.toList) :
    Link.fresh.exchange (some line) = (.ok (some (line ++ "\n")), .fresh) := by
  have hlines : Link.linesOf line = [line ++ "\n"] := by
    rw [Link.linesOf, List.splitOn_eq_singleton h, List.map_singleton, String.ofList_append, String.ofList_toList]
  simp [exchange, fresh, hlines]

section

variable {σ : Type} [ServedSource σ] [Arithmetic]

/-- Sends the request on connection `k` and reads one line of what comes back; nothing if nothing ever does. -/
def Remote.call (r : Remote σ) (k : Nat) {α : Type} (c : Call α) (id : String) :
    Option (Except CallError α) × Remote σ :=
  if r.link.isOpen then
    match r.server.receive k (utf8 (c.request id ++ "\n")) with
    | ([], true, s) => (none, ⟨s, r.link⟩)
    | (replies, isOpen, s) =>
      match r.link.exchange (if isOpen then some ("\n".intercalate replies) else none) with
      | (line, l) => (some (line.bind (c.outcome id)), ⟨s, l⟩)
  else (some (.error .unsent), r)

/-- A call, or anything the source does on its own. -/
inductive DeviceStep (σ : Type) where
  | call (c : SessionCommand) (id : String)
  | source (f : σ → σ)

namespace DeviceStep

def onDevice (d : Session × σ) : DeviceStep σ → Session × σ
  | call c _ => (d.1.call d.2 c).2
  | source f => (d.1, f d.2)

def onClient (k : Nat) (n : UInt64) (r : Remote σ) : DeviceStep σ → Remote σ
  | call c id => (r.call k (c.call n) id).2
  | source f => { r with server.host.source := f r.server.host.source }

end DeviceStep

/-! ## one call -/

/-- A state is read as it is rendered. -/
theorem Session.read_eq_fill (x : Session) (source : σ) (size : Nat) :
    x.read source size =
      match x.fill source (List.replicate size 0) with
      | (.ok (), bytes) => .ok bytes
      | (.error e, _) => .error e := by
  unfold read fill renderInto
  rw [List.length_replicate]
  cases x.agreementFor size with
  | error e => rfl
  | ok n =>
    dsimp only
    cases render x.catalog n.mappings n.fixups (x.filter.apply (SnapshotSource.snapshot source x.index))
      (List.replicate size 0) <;> rfl

/-- The answer of a session is judged to be what the device returns. -/
theorem Session.judge_serve (x : Session) (source : σ) (n : UInt64) (c : SessionCommand) :
    (c.call n).judge (x.serve source c).1 = (x.call source c).1.mapError (.refused (c.call n).name) ∧
      (x.serve source c).2 = (x.call source c).2 := by
  cases c with
  | capabilities | info | listObjects | setCooperation | acquire | unacquire => exact ⟨rfl, rfl⟩
  | setFormat format =>
    simp only [serve, call, Served.update]
    cases x.setFormat format <;> exact ⟨rfl, rfl⟩
  | getProperty p t =>
    simp only [serve, call]
    cases x.getProperty p t <;> exact ⟨rfl, rfl⟩
  | setProperty p t v =>
    simp only [serve, call, Served.update]
    cases x.setProperty p t v <;> exact ⟨rfl, rfl⟩
  | poll =>
    simp only [serve, call]
    obtain ⟨_ | _, _⟩ := x.poll source <;> exact ⟨rfl, rfl⟩
  | readState size =>
    simp only [serve, call, read_eq_fill]
    obtain ⟨_ | _, _⟩ := x.fill source (List.replicate size.toNat 0) <;> exact ⟨rfl, rfl⟩

/-! ## one exchange -/

theorem Server.receive_line {s : Server σ} {k : Nat} {ss : Sessions} (hk : s.connection k = .live ss) {line : String}
    (hline : '\n' ∉ line.toList) {m : Message} (hm : Wire.read? (line ++ "\n") = some m) :
    s.receive k (utf8 (line ++ "\n")) =
      ([Wire.write (Reply.mk m.id (s.host.serve ss m.command).1)], true,
        { s with host := (s.host.serve ss m.command).2.1 }.setConnection k (.live (s.host.serve ss m.command).2.2)) := by
  simp only [receive, hk, splitLines_line hline, Exchange.run, decodeLine?_utf8, Host.answerLine, hm]
  rfl

/-- A command that is no frame is served, and its answer judged. -/
theorem Remote.call_eq {s : Server σ} {k : Nat} {ss : Sessions} (hk : s.connection k = .live ss) {α : Type}
    {c : Call α} (hc : c.command.axes = []) (id : String) :
    (Remote.mk s .fresh).call k c id =
      (some (c.judge (s.host.serve ss c.command).1),
        ⟨{ s with host := (s.host.serve ss c.command).2.1 }.setConnection k (.live (s.host.serve ss c.command).2.2),
          .fresh⟩) := by
  have hrequest : '\n' ∉ (c.request id).toList := Wire.lineFeed_notMem_render (Wire.wellFormed_message ⟨id, c.command⟩)
  have hread : Wire.read? (c.request id ++ "\n") = some (Message.mk id c.command) := by
    refine (Wire.read?_message (m := ⟨id, c.command⟩) (by simp [hc]) "\n" Wire.isBlank_lineFeed).trans ?_
    simp [hc]
  have hreply := Wire.lineFeed_notMem_write (Reply.mk id (s.host.serve ss c.command).1)
  have houtcome : c.outcome id (some (Wire.write (Reply.mk id (s.host.serve ss c.command).1) ++ "\n")) =
      c.judge (s.host.serve ss c.command).1 := by
    simp only [Call.outcome, Wire.read?_line, if_true]
  have hopen : Link.fresh.isOpen = true := rfl
  simp only [Remote.call, hopen, if_true, Server.receive_line hk hrequest hread, String.intercalate_singleton,
    Link.exchange_fresh hreply, Except.bind, houtcome]

/-! ## sequences of calls -/

/-- Session `n` of connection `k` is the device's session, and the sources are the same. -/
structure Remote.Mirrors (r : Remote σ) (k : Nat) (n : UInt64) (d : Session × σ) : Prop where
  link : r.link = .fresh
  session : ∃ ss, r.server.connection k = .live ss ∧ ss.find? n = some d.1
  source : r.server.host.source = d.2

variable {r : Remote σ} {k : Nat} {n : UInt64} {d : Session × σ}

/-- A call returns what it returns on the device, and leaves the same behind. -/
theorem Remote.Mirrors.call (h : r.Mirrors k n d) (c : SessionCommand) (id : String) :
    (r.call k (c.call n) id).1 = some ((d.1.call d.2 c).1.mapError (.refused (c.call n).name)) ∧
      (r.call k (c.call n) id).2.Mirrors k n (d.1.call d.2 c).2 := by
  obtain ⟨s, l⟩ := r
  obtain ⟨rfl, ⟨ss, hk, hx⟩, hsource⟩ := h
  obtain ⟨x, source⟩ := d
  subst hsource
  have hcommand : (c.call n).command = .onSession n c := by cases c <;> rfl
  have haxes : (c.call n).command.axes = [] := by
    rw [hcommand]
    rfl
  obtain ⟨hjudge, hnext⟩ := x.judge_serve s.host.source n c
  rw [Remote.call_eq hk haxes, hcommand]
  simp only [Host.serve, Host.onSession, hx, ← hnext]
  refine ⟨congrArg some hjudge, rfl, ⟨_, (Server.connection_setConnection ..).trans (if_pos rfl), ?_⟩, rfl⟩
  rw [Sessions.find?_put, if_pos rfl, hx]
  rfl

theorem Remote.Mirrors.perform (h : r.Mirrors k n d) (step : DeviceStep σ) :
    (step.onClient k n r).Mirrors k n (step.onDevice d) := by
  cases step with
  | call c id => exact (h.call c id).2
  | source f => exact ⟨h.link, h.session, congrArg f h.source⟩

theorem Remote.Mirrors.run (h : r.Mirrors k n d) (steps : List (DeviceStep σ)) :
    (steps.foldl (DeviceStep.onClient k n) r).Mirrors k n (steps.foldl DeviceStep.onDevice d) := by
  induction steps generalizing r d with
  | nil => exact h
  | cons step steps ih => exact ih (h.perform step)

/-- A device opened through a client is one opened directly. After any sequence of calls and of anything the source does
in between, the next call returns what it returns on the device at hand; where that fails, `deviceError?` gives its
very error, so no call fails for any other reason. -/
theorem Server.transparent {s : Server σ} {k : Nat} {ss : Sessions} (hk : s.connection k = .live ss)
    (device : DeviceId) (id : String) :
    match s.host.interface.create (SnapshotSource.deviceCount s.host.source) device with
    | .error e =>
      ((Remote.mk s .fresh).call k (.openSession device) id).1.map (·.mapError CallError.deviceError?) =
        some (.error (some e))
    | .ok x =>
      ∃ n r, (Remote.mk s .fresh).call k (.openSession device) id = (some (.ok n), r) ∧
        ∀ (steps : List (DeviceStep σ)) (c : SessionCommand) (id : String),
          let remote := steps.foldl (DeviceStep.onClient k n) r
          let (x, source) := steps.foldl DeviceStep.onDevice (x, s.host.source)
          (remote.call k (c.call n) id).1.map (·.mapError CallError.deviceError?) =
            some ((x.call source c).1.mapError some) := by
  have hopen : (Call.openSession device).command.axes = [] := rfl
  have hcommand : (Call.openSession device).command = .openSession device := rfl
  rw [Remote.call_eq hk hopen, hcommand, Host.serve, Host.create]
  cases hcreate : s.host.interface.create (SnapshotSource.deviceCount s.host.source) device with
  | error e => rfl
  | ok x =>
    dsimp only
    -- the new session is found under its number, even if an older one had the number before
    generalize hserver : Server.setConnection _ k _ = server
    have hopened : (Remote.mk server .fresh).Mirrors k (.ofNat s.host.nextSession) (x, s.host.source) := by
      subst hserver
      exact ⟨rfl, ⟨_, (Server.connection_setConnection ..).trans (if_pos rfl),
        (Sessions.find?_add ..).trans (if_pos rfl)⟩, rfl⟩
    refine ⟨_, _, rfl, fun steps c id => ?_⟩
    have hmirrors := hopened.run steps
    generalize steps.foldl DeviceStep.onDevice (x, s.host.source) = d at hmirrors ⊢
    rw [(hmirrors.call c id).1]
    generalize (d.1.call d.2 c).1 = result
    cases result <;> rfl

end

/-- A device whose input has moved: its format is refused a buffer of another size, on the other side of the socket. -/
theorem Server.transparent_feed :
    letI : Arithmetic := .binary
    let s := Server.start ⟨.wide, .standard, .none⟩ (Feed.ofCount 2)
    let moved : Feed → Feed := fun f => ((f.submit 1 (Snapshot.neutral.setHat .west)).toOption).getD f
    let steps : List (DeviceStep Feed) :=
      [.call (.setFormat .joystick) "b", .call .acquire "c", .source moved, .call .poll "d"]
    ∃ n r, (Remote.mk s .fresh).call 0 (.openSession (.virtual 1)) "a" = (some (.ok n), r) ∧
      ((steps.foldl (DeviceStep.onClient 0 n) r).call 0 (.readState n 79) "e").1.map
        (·.mapError CallError.deviceError?) =
          some (.error (some (.invalidParameter "state buffer is 79 bytes, format needs 80"))) := by
  let : Arithmetic := .binary
  intro s moved steps
  obtain ⟨n, r, hopen, hcalls⟩ := Server.transparent (s := s) (k := 0) rfl (.virtual 1) "a"
  exact ⟨n, r, hopen, (hcalls steps (.readState 79) "e").trans rfl⟩

end GamepadPool
