import GamepadPool.Proofs.Server.Calls
import GamepadPool.Proofs.Wire.Lines
/-! # Requests
Bytes come in on any number of connections, in any order; connections close and peers vanish in between. All this is
one sequence of requests, the messages in the lines one by one. What the server does with the bytes is what it does with
the requests; and what a request does to the host and to the connections is what its call does, unless the peer is gone
before it is answered. -/

namespace GamepadPool

/-- The message in a line, if it is one. -/
def Message.ofLine? (line : List UInt8) : Option Message := (decodeLine? line).bind Wire.read?

/-- What comes in from a peer. -/
inductive Arrival where
  | bytes (k : Nat) (b : List UInt8)
  | close (k : Nat)
  /-- The bytes of a peer that is gone before it is answered. -/
  | parting (b : List UInt8)

/-- What there is to do. -/
inductive Request where
  | message (k : Nat) (m : Message)
  | close (k : Nat)
  /-- A message whose answer nobody hears. -/
  | parting (m : Message)

namespace Request

/-- The connection a request changes. -/
def connection? : Request → Option Nat
  | message k _ | close k => some k
  | parting _ => none

/-- The message that has come in on a connection. -/
def messageOn? (k : Nat) : Request → Option Message
  | message j m => if j = k then some m else none
  | close _ | parting _ => none

/-- The requests in the lines of a connection; a line that is no text ends it. -/
def ofLines (k : Nat) : List (List UInt8) → List Request
  | [] => []
  | line :: rest =>
    match decodeLine? line with
    | none => [.close k]
    | some text =>
      match (Wire.read? text : Option Message) with
      | none => ofLines k rest
      | some m => .message k m :: ofLines k rest

/-- The request in the lines of a peer that is gone: the first message. -/
def ofUnheard : List (List UInt8) → List Request
  | [] => []
  | line :: rest =>
    match decodeLine? line with
    | none => []
    | some text =>
      match (Wire.read? text : Option Message) with
      | none => ofUnheard rest
      | some m => [.parting m]

def ofArrival : Arrival → List Request
  | .bytes k b => ofLines k (splitLines b)
  | .close k => [.close k]
  | .parting b => ofUnheard (splitLines b)

theorem connection_ofLines {k : Nat} {lines : List (List UInt8)} : ∀ r ∈ ofLines k lines, r.connection? = some k := by
  fun_induction ofLines k lines with
  | case1 => simp
  | case2 => simp [connection?]
  | case3 _ _ _ _ _ ih => exact ih
  | case4 _ _ _ _ _ _ ih => exact List.forall_mem_cons.2 ⟨rfl, ih⟩

theorem connection_ofUnheard {lines : List (List UInt8)} : ∀ r ∈ ofUnheard lines, r.connection? = none := by
  fun_induction ofUnheard lines with
  | case1 => simp
  | case2 => simp
  | case3 _ _ _ _ _ ih => exact ih
  | case4 => simp [connection?]

theorem messageOn?_of_connection {r : Request} {k : Nat} (h : r.connection? ≠ some k) : r.messageOn? k = none := by
  cases r with
  | message j m => exact if_neg fun hj => h (congrArg some hj)
  | close | parting => rfl

/-- Among lines that are texts, every message is a request and nothing else is. -/
theorem ofLines_of_texts {k : Nat} {lines : List (List UInt8)}
    (h : ∀ line ∈ lines, ∃ text, decodeLine? line = some text) :
    ofLines k lines = (lines.filterMap Message.ofLine?).map (.message k) := by
  induction lines with
  | nil => rfl
  | cons line rest ih =>
    obtain ⟨⟨text, hline⟩, hrest⟩ := List.forall_mem_cons.1 h
    rw [ofLines, hline, ih hrest]
    cases hread : (Wire.read? text : Option Message) <;> simp [Message.ofLine?, hline, hread]

/-- The call a request makes; where the peer is gone there is none. -/
def call? : Request → Option ServerCall
  | message k m => some (.command k m.command)
  | close k => some (.close k)
  | parting _ => none

end Request

/-- The calls in the lines of a connection: a message is a command, and what is no text ends the connection. -/
def ServerCall.ofLines (k : Nat) (lines : List (List UInt8)) : List ServerCall :=
  (Request.ofLines k lines).filterMap (·.call?)

namespace Server

variable {σ : Type}

/-- The same host, and the same sessions on every connection. -/
structure Alike (s t : Server σ) : Prop where
  host : s.host = t.host
  connection : ∀ j, s.connection j = t.connection j

variable {s t u : Server σ}

theorem Alike.refl (s : Server σ) : s.Alike s := ⟨rfl, fun _ => rfl⟩

theorem Alike.symm (h : s.Alike t) : t.Alike s := ⟨h.host.symm, fun j => (h.connection j).symm⟩

theorem Alike.trans (h : s.Alike t) (h' : t.Alike u) : s.Alike u :=
  ⟨h.host.trans h'.host, fun j => (h.connection j).trans (h'.connection j)⟩

theorem Alike.setConnection (h : s.Alike t) (k : Nat) (c : Connection) :
    (s.setConnection k c).Alike (t.setConnection k c) :=
  ⟨h.host, fun j => by rw [connection_setConnection, connection_setConnection, h.connection j]⟩

variable [ServedSource σ] [Arithmetic] {k : Nat}

/-! ## what is asked, and what is answered -/

def take (s : Server σ) : Request → Server σ
  | .message k m => (s.command k m.command).2
  | .close k => s.close k
  | .parting m => { s with host := (s.host.serve [] m.command).2.1 }

/-- The answer to a request and the connection it goes to; one that has ended gets none. -/
def answer? (s : Server σ) : Request → Option (Nat × Reply)
  | .message k m => (s.command k m.command).1.map fun a => (k, ⟨m.id, a⟩)
  | .close _ | .parting _ => none

def follow (s : Server σ) : List Request → List (Nat × Reply) × Server σ
  | [] => ([], s)
  | r :: rest => ((s.answer? r).toList ++ ((s.take r).follow rest).1, ((s.take r).follow rest).2)

theorem follow_append (s : Server σ) (rs rs' : List Request) :
    s.follow (rs ++ rs') = ((s.follow rs).1 ++ ((s.follow rs).2.follow rs').1, ((s.follow rs).2.follow rs').2) := by
  induction rs generalizing s with
  | nil => rfl
  | cons r rs ih => simp [follow, ih]

theorem Alike.command (h : s.Alike t) (k : Nat) (c : Command) :
    (s.command k c).1 = (t.command k c).1 ∧ (s.command k c).2.Alike (t.command k c).2 := by
  unfold Server.command
  rw [h.connection k, h.host]
  cases t.connection k with
  | ended => exact ⟨rfl, h⟩
  | live ss =>
    dsimp only
    generalize t.host.serve ss c = r
    have hnext : Alike { s with host := r.2.1 } { t with host := r.2.1 } := ⟨rfl, h.connection⟩
    exact ⟨rfl, hnext.setConnection k (.live r.2.2)⟩

theorem Alike.request (h : s.Alike t) (r : Request) : s.answer? r = t.answer? r ∧ (s.take r).Alike (t.take r) := by
  cases r with
  | message k m =>
    obtain ⟨hanswer, hnext⟩ := h.command k m.command
    exact ⟨by rw [answer?, answer?, hanswer], hnext⟩
  | close k => exact ⟨rfl, h.setConnection k .ended⟩
  | parting m => exact ⟨rfl, by rw [take, take, h.host], h.connection⟩

theorem Alike.follow (h : s.Alike t) (rs : List Request) :
    (s.follow rs).1 = (t.follow rs).1 ∧ (s.follow rs).2.Alike (t.follow rs).2 := by
  induction rs generalizing s t with
  | nil => exact ⟨rfl, h⟩
  | cons r rs ih =>
    obtain ⟨hanswer, hnext⟩ := h.request r
    obtain ⟨hrest, hlast⟩ := ih hnext
    exact ⟨by rw [Server.follow, Server.follow, hanswer, hrest], hlast⟩

/-- Requests of peers that are there do what their calls do. -/
theorem follow_eq_run (s : Server σ) {rs : List Request} (hrs : ∀ r ∈ rs, r.connection? ≠ none) :
    (s.follow rs).2 = s.run (rs.filterMap (·.call?)) := by
  induction rs generalizing s with
  | nil => rfl
  | cons r rs ih =>
    obtain ⟨hr, hrest⟩ := List.forall_mem_cons.1 hrs
    cases r with
    | message | close => exact ih _ hrest
    | parting => exact absurd rfl hr

/-- On a connection that has ended, nothing is done and nothing answered. -/
theorem follow_ended (hk : s.connection k = .ended) {rs : List Request} (hrs : ∀ r ∈ rs, r.connection? = some k) :
    (s.follow rs).1 = [] ∧ (s.follow rs).2.Alike s := by
  induction rs generalizing s with
  | nil => exact ⟨rfl, .refl s⟩
  | cons r rs ih =>
    obtain ⟨hr, hrest⟩ := List.forall_mem_cons.1 hrs
    cases r with
    | message j m =>
      obtain rfl := Option.some.inj hr
      simpa [follow, answer?, take, command_ended hk] using ih hk hrest
    | close j =>
      obtain rfl := Option.some.inj hr
      have hsame : (s.close j).Alike s := by
        refine ⟨rfl, fun i => (s.connection_setConnection j .ended i).trans ?_⟩
        split
        · rename_i hi
          rw [hi, hk]
        · rfl
      obtain ⟨hanswers, halike⟩ := ih ((hsame.connection j).trans hk) hrest
      exact ⟨hanswers, halike.trans hsame⟩
    | parting => cases hr

/-! ## lines are requests -/

theorem follow_ofLines (s : Server σ) (k : Nat) (lines : List (List UInt8)) :
    (s.follow (Request.ofLines k lines)).2 = s.run (ServerCall.ofLines k lines) := by
  refine s.follow_eq_run fun r hr => ?_
  rw [Request.connection_ofLines r hr]
  nofun

theorem run_ofLines_live {ss : Sessions} (hk : s.connection k = .live ss) (lines : List (List UInt8)) :
    (s.run (ServerCall.ofLines k lines)).host = (Exchange.run s.host ss lines).host ∧
      ∀ j, (s.run (ServerCall.ofLines k lines)).connection j =
        if j = k then (Exchange.run s.host ss lines).sessions.elim .ended .live else s.connection j := by
  induction lines generalizing s ss with
  | nil =>
    refine ⟨rfl, fun j => ?_⟩
    split
    · rename_i hj
      rw [hj]
      exact hk
    · rfl
  | cons line rest ih =>
    unfold ServerCall.ofLines Request.ofLines Exchange.run
    cases hline : decodeLine? line with
    | none => exact ⟨rfl, s.connection_setConnection k .ended⟩
    | some text =>
      simp only [Host.answerLine]
      cases hmessage : (Wire.read? text : Option Message) with
      | none => exact ih hk
      | some m =>
        generalize hserve : s.host.serve ss m.command = r
        obtain ⟨a, h, ss'⟩ := r
        have hnext : s.perform (.command k m.command) = { s with host := h }.setConnection k (.live ss') := by
          rw [perform, command_of_live hk, hserve]
        have hrun : s.run ((Request.message k m :: Request.ofLines k rest).filterMap (·.call?)) =
            ({ s with host := h }.setConnection k (.live ss')).run (ServerCall.ofLines k rest) := by
          rw [← hnext]
          rfl
        have hset := connection_setConnection { s with host := h } k (.live ss')
        obtain ⟨hhost, hconnection⟩ := @ih _ ss' ((hset k).trans (if_pos rfl))
        simp only [hrun, hserve]
        refine ⟨hhost, fun j => (hconnection j).trans ?_⟩
        rw [hset j]
        split <;> rfl

/-- Bytes that arrive do to the host and to every connection what the calls in their lines do. -/
theorem receive_eq_run (s : Server σ) (k : Nat) (bytes : List UInt8) :
    (s.receive k bytes).2.2.Alike (s.run (ServerCall.ofLines k (splitLines bytes))) := by
  unfold receive
  cases hk : s.connection k with
  | ended =>
    rw [← follow_ofLines]
    exact (follow_ended hk Request.connection_ofLines).2.symm
  | live ss =>
    obtain ⟨hhost, hconnection⟩ := run_ofLines_live hk (splitLines bytes)
    dsimp only
    generalize Exchange.run s.host ss (splitLines bytes) = x at hhost hconnection ⊢
    obtain ⟨replies, h, last⟩ := x
    have hset := connection_setConnection { s with host := h } k
    cases last with
    | none => exact ⟨hhost.symm, fun j => (hset .ended j).trans (hconnection j).symm⟩
    | some ss' => exact ⟨hhost.symm, fun j => (hset (.live ss') j).trans (hconnection j).symm⟩

/-- The lines written are the answers, one by one. -/
theorem replies_run {ss : Sessions} (hk : s.connection k = .live ss) (lines : List (List UInt8)) :
    (Exchange.run s.host ss lines).replies.map (fun line => (k, line)) =
      (s.follow (Request.ofLines k lines)).1.map fun p => (p.1, Wire.write p.2) := by
  induction lines generalizing s ss with
  | nil => rfl
  | cons line rest ih =>
    unfold Exchange.run Request.ofLines
    cases decodeLine? line with
    | none => rfl
    | some text =>
      simp only [Host.answerLine]
      cases (Wire.read? text : Option Message) with
      | none => exact ih hk
      | some m =>
        have hnext : (s.take (.message k m)).connection k = .live (s.host.serve ss m.command).2.2 := by
          rw [take, command_of_live hk, connection_setConnection, if_pos rfl]
        have hhost : (s.take (.message k m)).host = (s.host.serve ss m.command).2.1 := by
          rw [take, command_of_live hk]
          rfl
        have hrest := ih hnext
        rw [hhost] at hrest
        simp [follow, answer?, command_of_live hk, hrest]

/-- A peer that is gone has its first message served and hears nothing. -/
theorem hangUp_eq_follow (s : Server σ) (lines : List (List UInt8)) :
    s.follow (Request.ofUnheard lines) = ([], { s with host := Exchange.runUnheard s.host [] lines }) := by
  induction lines with
  | nil => rfl
  | cons line rest ih =>
    unfold Request.ofUnheard Exchange.runUnheard
    cases decodeLine? line with
    | none => rfl
    | some text =>
      simp only [Host.answerLine]
      cases (Wire.read? text : Option Message) with
      | none => exact ih
      | some m => rfl

/-! ## what arrives is requests -/

/-- What an arrival has written, line by line with the connection, and the server after it. -/
def arrive (s : Server σ) : Arrival → List (Nat × String) × Server σ
  | .bytes k b => ((s.receive k b).1.map fun line => (k, line), (s.receive k b).2.2)
  | .close k => ([], s.close k)
  | .parting b => ([], s.hangUp b)

theorem arrive_eq_follow (s : Server σ) (a : Arrival) :
    (s.arrive a).1 = (s.follow (Request.ofArrival a)).1.map (fun p => (p.1, Wire.write p.2)) ∧
      (s.arrive a).2.Alike (s.follow (Request.ofArrival a)).2 := by
  cases a with
  | bytes k b =>
    have halike := s.receive_eq_run k b
    rw [← follow_ofLines] at halike
    refine ⟨?_, halike⟩
    rw [arrive, Request.ofArrival]
    cases hk : s.connection k with
    | ended => simp [receive, hk, (follow_ended hk Request.connection_ofLines).1]
    | live ss =>
      have hreplies : (s.receive k b).1 = (Exchange.run s.host ss (splitLines b)).replies := by
        unfold receive
        rw [hk]
        dsimp only
        split <;> rfl
      rw [hreplies, replies_run hk]
  | close k => exact ⟨rfl, .refl _⟩
  | parting b =>
    rw [Request.ofArrival, hangUp_eq_follow]
    exact ⟨rfl, .refl _⟩

end Server
end GamepadPool
