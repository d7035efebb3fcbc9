import GamepadPool.Proofs.Client.Inbox
import GamepadPool.Proofs.Client.Transparency
/-! # A call accepts its own answer
A call returns a value exactly where what it reads is an answer under the identifier it sent, of the one kind it
accepts, with that value. A device error under that identifier is kept; nothing else has one. So whatever the other side
sends, and whatever is left over from earlier calls, no call returns what was the answer to another one. -/

namespace GamepadPool

/-! ## calls -/

/-- The calls a client makes: sixteen that accept one kind of answer each, and the raw command, which accepts any. -/
inductive ClientCall where
  | ping
  | listDevices (cls : DeviceFamily) (flags : UInt32)
  | openSession (id : DeviceId)
  | submitFrame (index : UInt64) (inputs : Snapshot)
  | listAssignments
  | onSession (session : UInt64) (c : SessionCommand)
  | raw (c : Command)
deriving DecidableEq

/-- The answer to a session command that carries a value. -/
def SessionCommand.answer : (c : SessionCommand) → c.Value → Answer
  | capabilities, c => .capabilities c
  | info, i => .deviceInfo i
  | listObjects _, l => .objects l
  | getProperty .., v => .property v
  | readState _, bytes => .state bytes
  | setFormat _, () | setCooperation _, () | acquire, () | unacquire, () | setProperty .., () | poll, () => .ok

namespace ClientCall

/-- What the call returns. -/
def Value : ClientCall → Type
  | ping | submitFrame .. => Unit
  | listDevices .. => List DeviceInfo
  | openSession _ => UInt64
  | listAssignments => List BindingInfo
  | onSession _ c => c.Value
  | raw _ => Answer

def call : (m : ClientCall) → Call m.Value
  | ping => .ping
  | listDevices cls flags => .listDevices cls flags
  | openSession id => .openSession id
  | submitFrame index inputs => .submitFrame index inputs
  | listAssignments => .listAssignments
  | onSession n c => c.call n
  | raw c => .raw c

/-- The answer to the call that carries a value. -/
def answer : (m : ClientCall) → m.Value → Answer
  | ping, () => .pong
  | listDevices .., l => .devices l
  | openSession _, n => .deviceCreated n
  | submitFrame .., () => .ok
  | listAssignments, l => .assignments l
  | onSession _ c, v => c.answer v
  | raw _, a => a

end ClientCall

theorem Call.isPartialInv_acceptOk : Function.IsPartialInv (fun () => Answer.ok) acceptOk :=
  fun () a => by cases a <;> simp [acceptOk]

theorem SessionCommand.isPartialInv_answer (n : UInt64) (c : SessionCommand) :
    Function.IsPartialInv c.answer (c.call n).accept := by
  cases c with
  | setFormat | setCooperation | acquire | unacquire | setProperty | poll => exact Call.isPartialInv_acceptOk
  | capabilities =>
    change Function.IsPartialInv Answer.capabilities (Call.capabilities n).accept
    exact fun v a => by cases a <;> simp [Call.capabilities, eq_comm]
  | info =>
    change Function.IsPartialInv Answer.deviceInfo (Call.deviceInfo n).accept
    exact fun v a => by cases a <;> simp [Call.deviceInfo, eq_comm]
  | listObjects filter =>
    change Function.IsPartialInv Answer.objects (Call.listObjects n filter).accept
    exact fun v a => by cases a <;> simp [Call.listObjects, eq_comm]
  | getProperty p t =>
    change Function.IsPartialInv Answer.property (Call.getProperty n p t).accept
    exact fun v a => by cases a <;> simp [Call.getProperty, eq_comm]
  | readState size =>
    change Function.IsPartialInv Answer.state (Call.readState n size).accept
    exact fun v a => by cases a <;> simp [Call.readState, eq_comm]

/-- A call accepts the answers that carry a value for it, and takes the value out. -/
theorem ClientCall.isPartialInv_answer (m : ClientCall) : Function.IsPartialInv m.answer m.call.accept := by
  cases m with
  | submitFrame => exact Call.isPartialInv_acceptOk
  | onSession n c => exact c.isPartialInv_answer n
  | ping =>
    change Function.IsPartialInv (fun () => Answer.pong) Call.ping.accept
    exact fun () a => by cases a <;> simp [Call.ping]
  | listDevices cls flags =>
    change Function.IsPartialInv Answer.devices (Call.listDevices cls flags).accept
    exact fun v a => by cases a <;> simp [Call.listDevices, eq_comm]
  | openSession id =>
    change Function.IsPartialInv Answer.deviceCreated (Call.openSession id).accept
    exact fun v a => by cases a <;> simp [Call.openSession, eq_comm]
  | listAssignments =>
    change Function.IsPartialInv Answer.assignments Call.listAssignments.accept
    exact fun v a => by cases a <;> simp [Call.listAssignments, eq_comm]
  | raw => exact fun v a => Option.some_inj.trans eq_comm

/-! ## one line -/

/-- The answer in what a call reads. -/
def Reading.reply? : Reading → Option Reply
  | unsent => none
  | line bytes => (decodeLine? bytes).bind Wire.read?

namespace Call

variable {α : Type} {c : Call α} {id : String} {r : Reading}

theorem conclude_of_reply {reply : Reply} (h : r.reply? = some reply) :
    c.conclude id r = if reply.id = id then c.judge reply.answer else .error (.foreignReply id reply.id) := by
  cases r with
  | unsent => cases h
  | line bytes =>
    obtain ⟨text, htext, hread⟩ := Option.bind_eq_some_iff.1 h
    cases bytes with
    | nil => cases h
    | cons => simp only [conclude, htext, outcome, hread]

/-- What is no answer fails the call, and leaves no device error. -/
theorem conclude_of_none (h : r.reply? = none) : ∃ f, c.conclude id r = .error f ∧ f.deviceError? = none := by
  cases r with
  | unsent => exact ⟨.unsent, rfl, rfl⟩
  | line bytes =>
    cases bytes with
    | nil => exact ⟨.closed, rfl, rfl⟩
    | cons b bytes =>
      cases htext : decodeLine? (b :: bytes) with
      | none => exact ⟨.notText, by simp only [conclude, htext], rfl⟩
      | some text =>
        rw [Reading.reply?, htext, Option.bind_some] at h
        exact ⟨.unreadable text, by simp only [conclude, htext, outcome, h], rfl⟩

theorem deviceError?_reject {a : Answer} (h : ∀ e, a ≠ .error e) : (c.reject a).deviceError? = none := by
  cases a with
  | error e => exact absurd rfl (h e)
  | _ => rfl

end Call

namespace ClientCall

variable {m : ClientCall} {id : String} {r : Reading}

theorem judge_eq_ok {a : Answer} {v : m.Value} : m.call.judge a = .ok v ↔ m.answer v = a := by
  rw [← m.isPartialInv_answer v a, Call.judge]
  cases m.call.accept a <;> simp

theorem judge_of_ne {a : Answer} (h : ∀ v, m.answer v ≠ a) : m.call.judge a = .error (m.call.reject a) := by
  cases haccept : m.call.accept a with
  | none => simp only [Call.judge, haccept]
  | some v => exact absurd ((m.isPartialInv_answer v a).1 haccept) (h v)

/-- No value is carried by a device error, unless every answer is a value. -/
theorem answer_ne_error (hm : ∀ c, m ≠ .raw c) (v : m.Value) (e : DeviceError) : m.answer v ≠ .error e := by
  cases m with
  | raw c => exact absurd rfl (hm c)
  | onSession n c => cases c <;> exact Answer.noConfusion
  | _ => exact Answer.noConfusion

/-- The values that come out are those that came in under the call's identifier. -/
theorem conclude_eq_ok {v : m.Value} : m.call.conclude id r = .ok v ↔ r.reply? = some ⟨id, m.answer v⟩ := by
  cases hreply : r.reply? with
  | none =>
    obtain ⟨f, hf, -⟩ : ∃ f, m.call.conclude id r = .error f ∧ f.deviceError? = none := Call.conclude_of_none hreply
    simp [hf]
  | some reply =>
    obtain ⟨sender, a⟩ := reply
    rw [Call.conclude_of_reply hreply, Option.some_inj, Reply.mk.injEq]
    by_cases hid : sender = id
    · rw [if_pos hid, judge_eq_ok, and_iff_right hid, eq_comm]
    · simp [hid]

theorem conclude_of_error (hm : ∀ c, m ≠ .raw c) {e : DeviceError} (h : r.reply? = some ⟨id, .error e⟩) :
    ∃ f, m.call.conclude id r = .error f ∧ f.deviceError? = some e := by
  rw [Call.conclude_of_reply h, if_pos rfl, judge_of_ne fun v => answer_ne_error hm v e]
  exact ⟨_, rfl, rfl⟩

theorem conclude_of_other (hvalue : ∀ v, r.reply? ≠ some ⟨id, m.answer v⟩)
    (herror : ∀ e, r.reply? ≠ some ⟨id, .error e⟩) :
    ∃ f, m.call.conclude id r = .error f ∧ f.deviceError? = none := by
  cases hreply : r.reply? with
  | none => exact Call.conclude_of_none hreply
  | some reply =>
    obtain ⟨sender, a⟩ := reply
    rw [Call.conclude_of_reply hreply]
    by_cases hid : sender = id
    · subst hid
      rw [if_pos rfl, judge_of_ne fun v hv => hvalue v (hv ▸ hreply)]
      exact ⟨_, rfl, Call.deviceError?_reject fun e he => herror e (he ▸ hreply)⟩
    · exact ⟨_, if_neg hid, rfl⟩

end ClientCall

/-! ## sequences of calls -/

/-- A call as it is made: its identifier, and what the other side does before it returns. -/
structure Turn where
  call : ClientCall
  id : String
  /-- The request can be sent. -/
  isSent : Bool
  arriving : List UInt8
  /-- The other side hangs up behind that. -/
  hangsUp : Bool
deriving DecidableEq

/-- The outcome of the call from what it reads. -/
def Turn.outcome (t : Turn) (r : Reading) : Except CallError t.call.Value := t.call.call.conclude t.id r

namespace Inbox

/-- What calls read, one after the other. None follows a call that waits forever. -/
def run (b : Inbox) : List Turn → List (Turn × Reading)
  | [] => []
  | t :: turns =>
    match b.exchange t.isSent t.arriving t.hangsUp with
    | none => []
    | some (r, b) => (t, r) :: b.run turns

theorem fst_run (b : Inbox) (turns : List Turn) : (b.run turns).map Prod.fst <+: turns := by
  induction turns generalizing b with
  | nil => exact List.nil_prefix
  | cons t turns ih =>
    rw [run]
    cases b.exchange t.isSent t.arriving t.hangsUp with
    | none => exact List.nil_prefix
    | some next => exact List.cons_prefix_cons.2 ⟨rfl, ih next.2⟩

/-- Once the other side has hung up, what is read is what was left. -/
theorem bytes_run_of_closed {b : Inbox} (hclosed : b.isOpen = false) (turns : List Turn) :
    (b.run turns).flatMap (·.2.bytes) <+: b.waiting := by
  induction turns generalizing b with
  | nil => exact List.nil_prefix
  | cons t turns ih =>
    rw [run]
    cases hnext : b.exchange t.isSent t.arriving t.hangsUp with
    | none => exact List.nil_prefix
    | some next =>
      obtain ⟨hbytes, -, hopen⟩ := exchange_eq_some hnext
      rw [receive_of_closed hclosed] at hbytes hopen
      rw [List.flatMap_cons, ← hbytes]
      exact (List.prefix_append_right_inj _).2 (ih (hopen.trans hclosed))

/-- No byte is read twice, and none is passed over. -/
theorem bytes_run (b : Inbox) (turns : List Turn) :
    (b.run turns).flatMap (·.2.bytes) <+: b.waiting ++ turns.flatMap Turn.arriving := by
  induction turns generalizing b with
  | nil => exact List.nil_prefix
  | cons t turns ih =>
    cases hopen : b.isOpen with
    | false => exact (bytes_run_of_closed hopen _).trans (List.prefix_append _ _)
    | true =>
      rw [run]
      cases hnext : b.exchange t.isSent t.arriving t.hangsUp with
      | none => exact List.nil_prefix
      | some next =>
        obtain ⟨hbytes, -, -⟩ := exchange_eq_some hnext
        have hwaiting : next.1.bytes ++ next.2.waiting = b.waiting ++ t.arriving := by
          rw [hbytes, receive_of_open hopen]
        rw [List.flatMap_cons, List.flatMap_cons, ← List.append_assoc, ← hwaiting, List.append_assoc]
        exact (List.prefix_append_right_inj _).2 (ih next.2)

/-- Every call reads one line at most. -/
theorem lineFeed_run (b : Inbox) (turns : List Turn) : ∀ made ∈ b.run turns, 10 ∉ made.2.bytes.dropLast := by
  induction turns generalizing b with
  | nil => exact List.forall_mem_nil _
  | cons t turns ih =>
    rw [run]
    cases hnext : b.exchange t.isSent t.arriving t.hangsUp with
    | none => exact List.forall_mem_nil _
    | some next => exact List.forall_mem_cons.2 ⟨(exchange_eq_some hnext).2.1, ih next.2⟩

/-- A call that was made is the one that was to be made at its place. -/
theorem getElem?_of_run {b : Inbox} {turns : List Turn} {i : Nat} {t : Turn} {r : Reading}
    (h : (b.run turns)[i]? = some (t, r)) : turns[i]? = some t := by
  obtain ⟨later, hturns⟩ := b.fst_run turns
  have hfst : ((b.run turns).map Prod.fst)[i]? = some t := by rw [List.getElem?_map, h, Option.map_some]
  rw [← hturns, List.getElem?_append_left (List.getElem?_eq_some_iff.1 hfst).1, hfst]

end Inbox

/-- A call returns a value exactly where what it reads is an answer under its identifier that carries the value. A
device error under its identifier is kept, where the call accepts one kind of answer; everything else fails the call and
leaves no device error. Calls under different identifiers read what comes in line by line, and each value is that of the
answer to the call itself, which is not an answer to any other call. -/
theorem Inbox.accepts_own_answers (b : Inbox) {turns : List Turn} (hids : (turns.map Turn.id).Nodup) :
    (∀ (m : ClientCall) (id : String) (r : Reading),
      (∀ v, m.call.conclude id r = .ok v ↔ r.reply? = some ⟨id, m.answer v⟩) ∧
      ((∀ c, m ≠ .raw c) → ∀ e, r.reply? = some ⟨id, .error e⟩ →
        ∃ f, m.call.conclude id r = .error f ∧ f.deviceError? = some e) ∧
      ((∀ v, r.reply? ≠ some ⟨id, m.answer v⟩) → (∀ e, r.reply? ≠ some ⟨id, .error e⟩) →
        ∃ f, m.call.conclude id r = .error f ∧ f.deviceError? = none)) ∧
    ((b.run turns).flatMap (·.2.bytes) <+: b.waiting ++ turns.flatMap Turn.arriving ∧
      ∀ made ∈ b.run turns, 10 ∉ made.2.bytes.dropLast) ∧
    ∀ (i : Nat) (t : Turn) (r : Reading) (v : t.call.Value), (b.run turns)[i]? = some (t, r) → t.outcome r = .ok v →
      turns[i]? = some t ∧ r.reply? = some ⟨t.id, t.call.answer v⟩ ∧
        ∀ (j : Nat) (u : Turn) (a : Answer), turns[j]? = some u → r.reply? = some ⟨u.id, a⟩ → i = j := by
  refine ⟨fun m id r => ⟨fun v => ClientCall.conclude_eq_ok, fun hm e => ClientCall.conclude_of_error hm,
    ClientCall.conclude_of_other⟩, ⟨b.bytes_run turns, b.lineFeed_run turns⟩, fun i t r v hmade hv => ?_⟩
  have hturn := getElem?_of_run hmade
  have hreply : r.reply? = some ⟨t.id, t.call.answer v⟩ := ClientCall.conclude_eq_ok.1 hv
  refine ⟨hturn, hreply, fun j u a hu hother => ?_⟩
  have hid : t.id = u.id := congrArg Reply.id (Option.some.inj (hreply.symm.trans hother))
  have hi : i < (turns.map Turn.id).length := by
    rw [List.length_map]
    exact (List.getElem?_eq_some_iff.1 hturn).1
  refine (List.getElem?_inj hi hids).1 ?_
  rw [List.getElem?_map, List.getElem?_map, hturn, hu, Option.map_some, Option.map_some, hid]

/-- A ping that is answered twice: the second answer is read by the ping after it, whose own answer is read by a call of
another kind. Both fail. -/
theorem Inbox.accepts_own_answers_stale :
    let line (id : String) (a : Answer) : List UInt8 := utf8 (Wire.write (Reply.mk id a) ++ "\n")
    let turns : List Turn :=
      [⟨.ping, "a", true, line "a" .pong ++ line "a" .pong, false⟩, ⟨.ping, "b", true, line "b" .pong, false⟩,
        ⟨.listAssignments, "c", true, [], true⟩]
    (turns.map Turn.id).Nodup ∧
      ((Inbox.run ⟨[], true⟩ turns).map fun made => (made.1.outcome made.2).toBool) = [true, false, false] ∧
      ∀ (j : Nat) (u : Turn) (a : Answer), turns[j]? = some u →
        Reading.reply? (.line (line "a" .pong)) = some ⟨u.id, a⟩ → 0 = j := by
  intro line turns
  have hids : (turns.map Turn.id).Nodup := by decide
  have hfirst := (Inbox.accepts_own_answers ⟨[], true⟩ hids).2.2 0 turns[0] (.line (line "a" .pong)) ()
  exact ⟨hids, by decide +kernel, (hfirst (by decide +kernel) (ClientCall.conclude_eq_ok.2 (by decide +kernel))).2.2⟩

end GamepadPool
