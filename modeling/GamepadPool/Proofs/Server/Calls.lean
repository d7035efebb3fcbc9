import GamepadPool.Proofs.Entries
import GamepadPool.Proofs.Session.Calls
/-! # Runs of commands on a server
Commands come in on any number of connections, in any order, and connections close in between. What a command can do
to the shared host and to the sessions of its connection is said once, in eight cases; the sessions of other
connections are out of its reach. -/

namespace GamepadPool

namespace Command

/-- Asks about the server itself. -/
def isQuestion : Command → Bool
  | ping | listDevices .. | listAssignments => true
  | _ => false

/-- The session a command names. -/
def session? : Command → Option UInt64
  | closeSession n | onSession n _ => some n
  | _ => none

end Command

/-- The command was not carried out. -/
def Answer.isRefusal : Answer → Bool
  | error _ | failure _ => true
  | _ => false

namespace Sessions

variable {P : Session → Prop} {ss : Sessions} {n : UInt64} {x : Session}

def All (P : Session → Prop) (ss : Sessions) : Prop := ∀ p ∈ ss, P p.2

theorem All.find? (h : ss.All P) (hx : ss.find? n = some x) : P x := h (n, x) (List.mem_of_lookup hx)

theorem All.erase (h : ss.All P) : All P (ss.erase n) := fun p hp => h p (List.mem_filter.1 hp).1

theorem All.add (h : ss.All P) (hx : P x) : All P (ss.add n x) := by
  intro p hp
  rcases List.mem_append.1 hp with hp | hp
  · exact h.erase p hp
  · rw [List.mem_singleton.1 hp]
    exact hx

theorem All.put (h : ss.All P) (hx : P x) : All P (ss.put n x) := by
  intro p hp
  obtain ⟨q, hq, rfl⟩ := List.mem_map.1 hp
  split
  · exact hx
  · exact h q hq

end Sessions

/-! ## one command -/

namespace Host

variable {σ : Type} [ServedSource σ] [Arithmetic]

/-- What a command does, with its answer. -/
inductive Effect (h : Host σ) (ss : Sessions) : Command → Answer → Host σ → Sessions → Prop
  | question {c : Command} (hc : c.isQuestion = true) (a : Answer) : Effect h ss c a h ss
  | opened {id : DeviceId} {x : Session}
    (hx : h.interface.create (SnapshotSource.deviceCount h.source) id = .ok x) :
    Effect h ss (.openSession id) (.deviceCreated (.ofNat h.nextSession))
      { h with nextSession := h.nextSession + 1 } (ss.add (.ofNat h.nextSession) x)
  | notOpened (id : DeviceId) (e : DeviceError) : Effect h ss (.openSession id) (.error e) h ss
  | closed {n : UInt64} {x : Session} (hx : ss.find? n = some x) :
    Effect h ss (.closeSession n) .deviceDestroyed h (ss.erase n)
  | submitted {index : UInt64} {inputs : Snapshot} {source : σ}
    (hs : ServedSource.submit? h.source index.toNat inputs = some (.ok source)) :
    Effect h ss (.submitFrame index inputs) .ok { h with source := source } ss
  | notSubmitted (index : UInt64) (inputs : Snapshot) {a : Answer} (ha : a.isRefusal = true) :
    Effect h ss (.submitFrame index inputs) a h ss
  | served {n : UInt64} {c : SessionCommand} {x x' : Session} {a : Answer} {source : σ}
    (hx : ss.find? n = some x) (hs : x.serve h.source c = (a, x', source)) :
    Effect h ss (.onSession n c) a { h with source := source } (ss.put n x')
  | unknown {c : Command} {n : UInt64} (hc : c.session? = some n) (hn : ss.find? n = none) :
    Effect h ss c (noSuchSession n) h ss

theorem submit_effect (h : Host σ) (ss : Sessions) (index : UInt64) (inputs : Snapshot) :
    Effect h ss (.submitFrame index inputs) (h.submit ss index.toNat inputs).1 (h.submit ss index.toNat inputs).2.1
      (h.submit ss index.toNat inputs).2.2 := by
  unfold submit
  split
  · exact .submitted ‹_›
  · exact .notSubmitted index inputs rfl
  · exact .notSubmitted index inputs rfl

theorem onSession_effect (h : Host σ) (ss : Sessions) (n : UInt64) (c : SessionCommand) :
    Effect h ss (.onSession n c) (h.onSession ss n c).1 (h.onSession ss n c).2.1 (h.onSession ss n c).2.2 := by
  unfold onSession
  split
  · exact .unknown rfl ‹_›
  · exact .served ‹_› rfl

theorem serve_effect (h : Host σ) (ss : Sessions) (c : Command) :
    Effect h ss c (h.serve ss c).1 (h.serve ss c).2.1 (h.serve ss c).2.2 := by
  cases c with
  | ping | listDevices | listAssignments => exact .question rfl _
  | openSession id =>
    simp only [serve, create]
    split
    · exact .opened ‹_›
    · exact .notOpened id _
  | closeSession n =>
    simp only [serve, destroy]
    split
    · exact .closed ‹_›
    · exact .unknown rfl ‹_›
  | onSession n c => exact h.onSession_effect ss n c
  | submitFrame index inputs => exact h.submit_effect ss index inputs

variable {h h' : Host σ} {ss ss' : Sessions} {c : Command} {a : Answer}

theorem Effect.interface (he : Effect h ss c a h' ss') : h'.interface = h.interface := by
  cases he <;> rfl

/-- What new sessions have and every change of a session keeps, all sessions of a connection have. -/
theorem Effect.all {P : Session → Prop} (he : Effect h ss c a h' ss')
    (hopen : ∀ id x, h.interface.create (SnapshotSource.deviceCount h.source) id = .ok x → P x)
    (hchange : ∀ x n? x', P x → Session.Change x n? x' → P x') (hss : ss.All P) : ss'.All P := by
  cases he with
  | opened hx => exact hss.add (hopen _ _ hx)
  | closed => exact hss.erase
  | @served n c x x' a source hx hs =>
    have hc := Session.perform_change (x, h.source) (.command c)
    have hx' : (Session.perform (x, h.source) (.command c)).1 = x' := congrArg (·.2.1) hs
    rw [hx'] at hc
    exact hss.put (hchange x _ x' (hss.find? hx) hc)
  | question | notOpened | submitted | notSubmitted | unknown => exact hss

end Host

/-! ## runs -/

/-- A command on a connection, or its end. -/
inductive ServerCall where
  | command (k : Nat) (c : Command)
  | close (k : Nat)

/-- The connection a call is made on. -/
def ServerCall.connection : ServerCall → Nat
  | command k _ | close k => k

/-- The sessions of a connection; they end with it. -/
def Connection.sessions : Connection → Sessions
  | live ss => ss
  | ended => []

namespace Server

variable {σ : Type}

def sessions (s : Server σ) (k : Nat) : Sessions := (s.connection k).sessions

theorem sessions_of_live {s : Server σ} {k : Nat} {ss : Sessions} (hk : s.connection k = .live ss) : s.sessions k = ss := by
  rw [sessions, hk, Connection.sessions]

theorem connection_setConnection (s : Server σ) (k : Nat) (c : Connection) (j : Nat) :
    (s.setConnection k c).connection j = if j = k then c else s.connection j := by
  unfold connection setConnection
  rw [List.lookup_cons_eq_ite]
  split
  · rfl
  · rename_i h
    rw [List.lookup_filter_ne h]

theorem sessions_setConnection (s : Server σ) (k : Nat) (c : Connection) (j : Nat) :
    (s.setConnection k c).sessions j = if j = k then c.sessions else s.sessions j := by
  unfold sessions
  rw [connection_setConnection, apply_ite Connection.sessions]

variable [ServedSource σ] [Arithmetic]

/-- Serves a command of a connection; one that has ended sends none. -/
def command (s : Server σ) (k : Nat) (c : Command) : Option Answer × Server σ :=
  match s.connection k with
  | .ended => (none, s)
  | .live ss =>
    match s.host.serve ss c with
    | (a, h, ss) => (some a, { s with host := h }.setConnection k (.live ss))

theorem command_ended {s : Server σ} {k : Nat} (hk : s.connection k = .ended) (c : Command) :
    s.command k c = (none, s) := by
  simp [command, hk]

theorem command_of_live {s : Server σ} {k : Nat} {ss : Sessions} (hk : s.connection k = .live ss) (c : Command) :
    s.command k c = (some (s.host.serve ss c).1,
      { s with host := (s.host.serve ss c).2.1 }.setConnection k (.live (s.host.serve ss c).2.2)) := by
  simp [command, hk]

theorem command_live {s : Server σ} {k : Nat} (hk : s.connection k ≠ .ended) (c : Command) :
    s.command k c = (some (s.host.serve (s.sessions k) c).1,
      { s with host := (s.host.serve (s.sessions k) c).2.1 }.setConnection k
        (.live (s.host.serve (s.sessions k) c).2.2)) := by
  cases hlive : s.connection k with
  | ended => exact absurd hlive hk
  | live ss => rw [sessions_of_live hlive, command_of_live hlive]

theorem command_cases (s : Server σ) (k : Nat) (c : Command) :
    (s.connection k = .ended ∧ s.command k c = (none, s)) ∨
    ∃ a h ss, s.connection k = .live (s.sessions k) ∧ s.host.Effect (s.sessions k) c a h ss ∧
      s.command k c = (some a, { s with host := h }.setConnection k (.live ss)) := by
  cases hk : s.connection k with
  | ended => exact .inl ⟨rfl, command_ended hk c⟩
  | live ss =>
    rw [sessions_of_live hk]
    exact .inr ⟨_, _, _, rfl, s.host.serve_effect ss c, command_of_live hk c⟩

def perform (s : Server σ) : ServerCall → Server σ
  | .command k c => (s.command k c).2
  | .close k => s.close k

def run (s : Server σ) (calls : List ServerCall) : Server σ := calls.foldl perform s

/-- Other connections are left alone. -/
theorem connection_perform (s : Server σ) {c : ServerCall} {j : Nat} (hj : c.connection ≠ j) :
    (s.perform c).connection j = s.connection j := by
  cases c with
  | command k c =>
    rcases s.command_cases k c with ⟨-, hc⟩ | ⟨a, h, ss, -, -, hc⟩
    · rw [perform, hc]
    · rw [perform, hc]
      exact (connection_setConnection ..).trans (if_neg hj.symm)
  | close k => exact (connection_setConnection ..).trans (if_neg hj.symm)

end Server
end GamepadPool
