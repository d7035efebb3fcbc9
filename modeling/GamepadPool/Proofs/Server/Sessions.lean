import GamepadPool.Proofs.Server.Calls
/-! # Sessions under their numbers
A connection knows its sessions by number, and a command finds one by the number it names. What a command leaves behind
is said here number by number, so that nothing later depends on the order in which a connection lists its sessions. -/

namespace GamepadPool

namespace Sessions

variable (ss : Sessions) (n : UInt64) (x : Session) (m : UInt64)

theorem find?_erase : (ss.erase n).find? m = if m = n then none else ss.find? m := by
  split
  · rename_i h
    subst h
    exact List.lookup_filter_self ..
  · rename_i h
    exact List.lookup_filter_ne h

theorem find?_add : (ss.add n x).find? m = if m = n then some x else ss.find? m := by
  have herased := ss.find?_erase n m
  unfold find? at herased ⊢
  rw [add, List.lookup_append, herased, List.lookup_cons_eq_ite]
  split
  · rfl
  · exact Option.or_none

theorem find?_put : (ss.put n x).find? m = if m = n then (ss.find? n).map fun _ => x else ss.find? m :=
  List.lookup_replace ..

end Sessions

namespace Server

variable {σ : Type}

/-- The session that a connection knows by a number. -/
def session? (s : Server σ) (k : Nat) (n : UInt64) : Option Session := (s.sessions k).find? n

theorem session?_setConnection (s : Server σ) (k : Nat) (ss : Sessions) (j : Nat) (n : UInt64) :
    (s.setConnection k (.live ss)).session? j n = if j = k then ss.find? n else s.session? j n := by
  unfold session?
  rw [sessions_setConnection]
  split <;> rfl

theorem session?_close (s : Server σ) (k j : Nat) (n : UInt64) :
    (s.close k).session? j n = if j = k then none else s.session? j n := by
  unfold session? close
  rw [sessions_setConnection]
  split <;> rfl

/-- An ended connection has no sessions. -/
theorem session?_of_ended {s : Server σ} {k : Nat} (hk : s.connection k = .ended) (n : UInt64) :
    s.session? k n = none := by
  rw [session?, sessions, hk]
  rfl

/-- The device of a session. -/
def device? (s : Server σ) (k : Nat) (n : UInt64) : Option Nat := (s.session? k n).map (·.index)

/-- The same host, the same connections still there, and the same sessions under the same numbers. -/
structure Same (s t : Server σ) : Prop where
  host : s.host = t.host
  ended : ∀ k, s.connection k = .ended ↔ t.connection k = .ended
  session? : ∀ k n, s.session? k n = t.session? k n

variable {s t : Server σ}

/-- One session is set to what is given, or taken away; the other sessions and the connections are as they were. -/
structure Sets (s : Server σ) (k : Nat) (n : UInt64) (x? : Option Session) (t : Server σ) : Prop where
  ended : ∀ j, t.connection j = .ended ↔ s.connection j = .ended
  session? : ∀ j m, t.session? j m = if j = k ∧ m = n then x? else s.session? j m

theorem Sets.device? {k : Nat} {n : UInt64} {x? : Option Session} (h : s.Sets k n x? t) (j : Nat) (m : UInt64) :
    t.device? j m = if j = k ∧ m = n then x?.map (·.index) else s.device? j m := by
  unfold Server.device?
  rw [h.session?]
  split <;> rfl

/-- A session that stays is set to itself. -/
theorem sets_self (s : Server σ) (k : Nat) (n : UInt64) : s.Sets k n (s.session? k n) s := by
  refine ⟨fun _ => .rfl, fun j m => ?_⟩
  split
  · rename_i hjm
    rw [hjm.1, hjm.2]
  · rfl

variable [ServedSource σ] [Arithmetic] {k : Nat}

/-! ## what a command leaves behind -/

/-- No command ends a connection. -/
theorem ended_command (s : Server σ) (k : Nat) (c : Command) (j : Nat) :
    (s.command k c).2.connection j = .ended ↔ s.connection j = .ended := by
  by_cases hk : s.connection k = .ended
  · rw [command_ended hk]
  · rw [command_live hk, connection_setConnection]
    split
    · rename_i hj
      subst hj
      exact iff_of_false nofun hk
    · rfl

theorem session?_command (hk : s.connection k ≠ .ended) (c : Command) (j : Nat) (n : UInt64) :
    (s.command k c).2.session? j n =
      if j = k then (s.host.serve (s.sessions k) c).2.2.find? n else s.session? j n := by
  rw [command_live hk, session?_setConnection]
  rfl

theorem host_command (hk : s.connection k ≠ .ended) (c : Command) :
    (s.command k c).2.host = (s.host.serve (s.sessions k) c).2.1 := by
  rw [command_live hk]
  rfl

theorem same_command (hk : s.connection k ≠ .ended) {c : Command}
    (hhost : (s.host.serve (s.sessions k) c).2.1 = s.host)
    (hfind : ∀ n, (s.host.serve (s.sessions k) c).2.2.find? n = s.session? k n) : (s.command k c).2.Same s := by
  refine ⟨(host_command hk c).trans hhost, s.ended_command k c, fun j n => ?_⟩
  rw [session?_command hk]
  split
  · rename_i hj
    rw [hj]
    exact hfind n
  · rfl

/-! ## commands that set one session at most -/

theorem sets_command (hk : s.connection k ≠ .ended) {c : Command} {n : UInt64} {x? : Option Session}
    (hfind : ∀ m, (s.host.serve (s.sessions k) c).2.2.find? m = if m = n then x? else s.session? k m) :
    s.Sets k n x? (s.command k c).2 := by
  refine ⟨s.ended_command k c, fun j m => ?_⟩
  rw [session?_command hk, hfind]
  by_cases hj : j = k
  · simp [hj]
  · simp [hj]

/-- A command that leaves the sessions of its connection. -/
theorem sets_quiet (hk : s.connection k ≠ .ended) {c : Command}
    (hss : (s.host.serve (s.sessions k) c).2.2 = s.sessions k) (n : UInt64) :
    s.Sets k n (s.session? k n) (s.command k c).2 := by
  refine sets_command hk fun m => ?_
  rw [hss]
  split
  · rename_i hm
    rw [hm]
    rfl
  · rfl

theorem sets_ended (hk : s.connection k = .ended) (c : Command) (n : UInt64) : s.Sets k n none (s.command k c).2 := by
  rw [command_ended hk]
  have hself := s.sets_self k n
  rwa [session?_of_ended hk] at hself

theorem sets_openSession (hk : s.connection k ≠ .ended) {id : DeviceId} {x : Session}
    (hx : s.host.interface.create (SnapshotSource.deviceCount s.host.source) id = .ok x) :
    s.Sets k (.ofNat s.host.nextSession) (some x) (s.command k (.openSession id)).2 := by
  refine sets_command hk fun m => ?_
  simp only [Host.serve, Host.create, hx]
  exact Sessions.find?_add ..

theorem sets_closeSession (s : Server σ) (k : Nat) (n : UInt64) : s.Sets k n none (s.command k (.closeSession n)).2 := by
  by_cases hk : s.connection k = .ended
  · exact sets_ended hk _ n
  · refine sets_command hk fun m => ?_
    simp only [Host.serve, Host.destroy]
    split
    · exact Sessions.find?_erase ..
    · rename_i hn
      split
      · rename_i hm
        rw [hm]
        exact hn
      · rfl

theorem sets_onSession (s : Server σ) (k : Nat) (n : UInt64) (c : SessionCommand) :
    s.Sets k n ((s.session? k n).map fun x => (x.serve s.host.source c).2.1) (s.command k (.onSession n c)).2 := by
  by_cases hk : s.connection k = .ended
  · rw [session?_of_ended hk]
    exact sets_ended hk _ n
  · refine sets_command hk fun m => ?_
    rw [session?]
    cases hn : (s.sessions k).find? n with
    | none =>
      simp only [Host.serve, Host.onSession, hn]
      split
      · rename_i hm
        rw [hm]
        exact hn
      · rfl
    | some x =>
      simp only [Host.serve, Host.onSession, hn]
      rw [Sessions.find?_put, hn]
      rfl

/-- A command leaves a session on its device. -/
theorem index_map_serve (s : Server σ) (k : Nat) (n : UInt64) (source : σ) (c : SessionCommand) :
    ((s.session? k n).map fun x => (x.serve source c).2.1).map (·.index) = s.device? k n := by
  rw [Option.map_map]
  exact congrArg (Option.map · (s.session? k n)) (funext fun x => x.index_serve source c)

theorem host_closeSession (s : Server σ) (k : Nat) (n : UInt64) : (s.command k (.closeSession n)).2.host = s.host := by
  by_cases hk : s.connection k = .ended
  · rw [command_ended hk]
  · rw [host_command hk]
    simp only [Host.serve, Host.destroy]
    split <;> rfl

/-- Of the commands on a session only a poll reaches the host. -/
theorem host_onSession (s : Server σ) (k : Nat) (n : UInt64) {c : SessionCommand} (hc : c ≠ .poll) :
    (s.command k (.onSession n c)).2.host = s.host := by
  by_cases hk : s.connection k = .ended
  · rw [command_ended hk]
  · rw [host_command hk]
    simp only [Host.serve, Host.onSession]
    cases (s.sessions k).find? n with
    | none => rfl
    | some x =>
      have hsource : (x.serve s.host.source c).2.2 = s.host.source := Session.serve_source rfl hc
      simp only [hsource]

end Server

/-! ## what an answer depends on -/

namespace Host

variable {σ : Type} [ServedSource σ] [Arithmetic]

omit [Arithmetic] in
theorem sessions_submit (h : Host σ) (ss : Sessions) (index : Nat) (inputs : Snapshot) :
    (h.submit ss index inputs).2.2 = ss := by
  unfold submit
  split <;> rfl

/-- The sessions count by their numbers alone. -/
theorem answer_congr (h : Host σ) {ss ss' : Sessions} (hss : ∀ n, ss.find? n = ss'.find? n) (c : Command) :
    (h.serve ss c).1 = (h.serve ss' c).1 := by
  cases c with
  | ping | listDevices | listAssignments => rfl
  | openSession id =>
    simp only [serve, create]
    cases h.interface.create (SnapshotSource.deviceCount h.source) id <;> rfl
  | closeSession n =>
    simp only [serve, destroy, hss]
    cases ss'.find? n <;> rfl
  | onSession n c =>
    simp only [serve, onSession, hss]
    cases ss'.find? n <;> rfl
  | submitFrame index inputs =>
    simp only [serve, submit]
    cases ServedSource.submit? h.source index.toNat inputs with
    | none => rfl
    | some r => cases r <;> rfl

end Host

namespace Server

variable {σ : Type} [ServedSource σ] [Arithmetic] {s t : Server σ}

theorem Same.answer (h : s.Same t) (k : Nat) (c : Command) : (s.command k c).1 = (t.command k c).1 := by
  by_cases hk : s.connection k = .ended
  · rw [command_ended hk, command_ended ((h.ended k).1 hk)]
  · rw [command_live hk, command_live (mt (h.ended k).2 hk), h.host]
    exact congrArg some (t.host.answer_congr (h.session? k) c)

end Server
end GamepadPool
