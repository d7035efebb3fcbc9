import GamepadPool.Proofs.Format.Negotiation
import GamepadPool.Proofs.Server.Sessions
/-! # Refused commands
A command can be refused at many depths, the last after most of its work is done. Except for a poll, which may have
read a pad before it reports a loss, nothing of that work is seen afterwards: the server is as it was, and every later
command is answered as if the refused one had never been sent. -/

namespace GamepadPool

/-! ## formats that fail on the way -/

namespace Agreement

theorem serveAll_append (objects : List DeviceObject) (n : Agreement) (rs rs' : List ObjectRequest) :
    serveAll objects n (rs ++ rs') =
      match serveAll objects n rs with
      | .ok n => serveAll objects n rs'
      | .error e => .error e := by
  induction rs generalizing n with
  | nil => rfl
  | cons r rs ih =>
    rw [List.cons_append, serveAll, serveAll]
    cases serve objects n r with
    | error e => rfl
    | ok n => exact ih n

end Agreement

/-- A valid format that fails at a request, after the requests before it were served. -/
def BufferFormat.FailsAfter (f : BufferFormat) (objects : List DeviceObject) (served : List ObjectRequest)
    (e : FormatError) : Prop :=
  f.validate = .ok () ∧ ∃ n r rest, f.objects = served ++ r :: rest ∧
    Agreement.serveAll objects ⟨f.dataSize, [], []⟩ served = .ok n ∧ Agreement.serve objects n r = .error e

theorem Catalog.negotiate_of_failsAfter {c : Catalog} {f : BufferFormat} {served : List ObjectRequest}
    {e : FormatError} (h : f.FailsAfter c.objects served e) : c.negotiate f = .error e := by
  obtain ⟨hvalid, n, r, rest, hobjects, hserved, hfails⟩ := h
  simp only [negotiate, hvalid, hobjects, Agreement.serveAll_append, hserved, Agreement.serveAll, hfails]

/-! ## one command -/

section

variable {σ : Type} [ServedSource σ] [Arithmetic]

omit [ServedSource σ] [Arithmetic] in
theorem Served.update_refused {ε : Type} {f : ε → DeviceError} {r : Except ε Session} {x x' : Session}
    {source source' : σ} {a : Answer} (h : update f r x source = (a, x', source')) (ha : a.isRefusal = true) :
    x' = x := by
  cases r with
  | error e =>
    cases h
    rfl
  | ok y =>
    cases h
    cases ha

/-- A session that refuses a command is what it was, and so is its source unless it was polled. -/
theorem Session.serve_refused {x x' : Session} {source source' : σ} {c : SessionCommand} {a : Answer}
    (h : x.serve source c = (a, x', source')) (hc : c ≠ .poll) (ha : a.isRefusal = true) :
    x' = x ∧ source' = source := by
  refine ⟨?_, serve_source h hc⟩
  cases c with
  | poll => exact absurd rfl hc
  | setFormat f => exact Served.update_refused h ha
  | setProperty p t v => exact Served.update_refused h ha
  | getProperty p t =>
    simp only [serve] at h
    cases hget : x.getProperty p t <;> rw [hget] at h <;> cases h <;> rfl
  | readState size =>
    simp only [serve] at h
    cases hread : x.read source size.toNat <;> rw [hread] at h <;> cases h <;> rfl
  | acquire | unacquire =>
    cases h
    cases ha
  | capabilities | info | listObjects | setCooperation =>
    cases h
    rfl

/-- A refusal leaves the host and, under every number, the session. -/
theorem Host.Effect.refused {h h' : Host σ} {ss ss' : Sessions} {c : Command} {a : Answer} (he : h.Effect ss c a h' ss')
    (hc : ∀ n, c ≠ .onSession n .poll) (ha : a.isRefusal = true) : h' = h ∧ ∀ n, ss'.find? n = ss.find? n := by
  cases he with
  | question | notOpened | notSubmitted | unknown => exact ⟨rfl, fun _ => rfl⟩
  | opened | closed | submitted => cases ha
  | @served n c x x' a source hx hs =>
    obtain ⟨rfl, rfl⟩ := Session.serve_refused hs (fun hpoll => hc n (congrArg _ hpoll)) ha
    refine ⟨rfl, fun m => ?_⟩
    rw [Sessions.find?_put]
    split
    · rename_i hm
      rw [hm, hx]
      rfl
    · rfl

namespace Server

variable {s : Server σ} {k : Nat} {c : Command} {a : Answer}

theorem command_refused (hc : ∀ n, c ≠ .onSession n .poll) (hanswer : (s.command k c).1 = some a)
    (ha : a.isRefusal = true) : (s.command k c).2.Same s := by
  by_cases hk : s.connection k = .ended
  · rw [command_ended hk] at hanswer
    cases hanswer
  · rw [command_live hk] at hanswer
    obtain rfl : (s.host.serve (s.sessions k) c).1 = a := Option.some.inj hanswer
    obtain ⟨hhost, hfind⟩ := (s.host.serve_effect (s.sessions k) c).refused hc ha
    exact same_command hk hhost hfind

/-- A command other than a poll that is refused leaves the server as it was, and no later command is answered
differently. In particular a format may fail at any of its requests, whatever the requests before it had taken: the
session keeps the format it had, and its state is read as before. -/
theorem unchanged_of_refused (s : Server σ) (k : Nat) :
    (∀ c a, (∀ n, c ≠ .onSession n .poll) → (s.command k c).1 = some a → a.isRefusal = true →
      (s.command k c).2.Same s ∧ ∀ j d, ((s.command k c).2.command j d).1 = (s.command j d).1) ∧
    ∀ m x f served e, s.session? k m = some x → f.FailsAfter x.catalog.objects served e →
      let after := s.command k (.onSession m (.setFormat f))
      after.1 = some (.error e.toDeviceError) ∧ after.2.session? k m = some x ∧
        ∀ size, (after.2.command k (.onSession m (.readState size))).1 =
          (s.command k (.onSession m (.readState size))).1 := by
  refine ⟨fun c a hc hanswer ha => ?_, fun m x f served e hx hfails => ?_⟩
  · have hsame := command_refused hc hanswer ha
    exact ⟨hsame, hsame.answer⟩
  · intro after
    have hlive : s.connection k ≠ .ended := by
      intro hk
      rw [session?_of_ended hk] at hx
      cases hx
    have hanswer : after.1 = some (.error e.toDeviceError) := by
      have hfind : (s.sessions k).find? m = some x := hx
      have hformat : x.setFormat f = .error e := by
        rw [Session.setFormat, Catalog.negotiate_of_failsAfter hfails]
      show (s.command k _).1 = _
      simp only [command_live hlive, Host.serve, Host.onSession, hfind, Session.serve, hformat, Served.update]
    have hsame : after.2.Same s := command_refused (fun _ hpoll => by cases hpoll) hanswer rfl
    exact ⟨hanswer, (hsame.session? k m).trans hx, fun size => hsame.answer k _⟩

end Server

end

/-- A format whose second request names a hat the device lacks takes a button first, and nothing comes of it. -/
theorem Server.unchanged_of_missing_hat :
    letI : Arithmetic := .binary
    let button : ObjectRequest := ⟨none, 0, TypeBits.button ||| TypeBits.anyInstance, 0⟩
    let hat : ObjectRequest := ⟨none, 4, TypeBits.pov ||| TypeBits.ofInstance 7, 0⟩
    let s := (Server.start ⟨.wide, .standard, .none⟩ (Feed.ofCount 1)).run
      [.command 0 (.openSession (.virtual 0)), .command 0 (.onSession 1 (.setFormat .joystick))]
    let after := s.command 0 (.onSession 1 (.setFormat ⟨0, 8, [button, hat]⟩))
    after.1 = some (.error (.objectNotFound "required object 0x00000710 at offset 4")) ∧ after.2.Same s ∧
      (after.2.command 0 (.onSession 1 (.readState 80))).1 = (s.command 0 (.onSession 1 (.readState 80))).1 := by
  let : Arithmetic := .binary
  intro button hat s after
  let x := (s.session? 0 1).getD (.ofDevice 0 .standard .wide .none)
  have hx : s.session? 0 1 = some x := by decide +kernel
  have hfails : BufferFormat.FailsAfter ⟨0, 8, [button, hat]⟩ x.catalog.objects [button]
      (.requiredMissing hat.typeBits 4) :=
    ⟨by decide, ⟨8, [⟨6, 0⟩], []⟩, hat, [], rfl, by decide +kernel, by decide +kernel⟩
  obtain ⟨hall, hformat⟩ := Server.unchanged_of_refused s 0
  obtain ⟨hanswer, -, hread⟩ := hformat 1 x _ [button] _ hx hfails
  have hnopoll : ∀ n, Command.onSession 1 (.setFormat ⟨0, 8, [button, hat]⟩) ≠ .onSession n .poll :=
    fun _ h => nomatch (Command.onSession.inj h).2
  exact ⟨hanswer.trans (by decide +kernel), (hall _ _ hnopoll hanswer rfl).1, hread 80⟩

end GamepadPool
