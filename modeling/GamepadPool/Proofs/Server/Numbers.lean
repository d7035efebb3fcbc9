import GamepadPool.Proofs.Server.Sessions
import Mathlib.Data.List.Nodup
/-! # Numbers of sessions
One counter numbers the sessions of all connections. No number is handed out twice, whatever was closed in between, and
a connection reaches a session under a number exactly if it was handed that number and has not closed the session. -/

namespace GamepadPool

/-- What becomes of the sessions of a connection. -/
inductive SessionEvent where
  | opened (n : UInt64) (device : DeviceId)
  | closed (n : UInt64)
  /-- The connection ended, and its sessions with it. -/
  | ended
deriving DecidableEq

/-- Events by connection, in the order they happened. -/
abbrev SessionHistory := List (Nat × SessionEvent)

namespace SessionHistory

/-- The numbers handed out, on whatever connection, in order. -/
def numbers (h : SessionHistory) : List UInt64 :=
  h.filterMap fun
    | (_, .opened n _) => some n
    | _ => none

/-- The connection was handed the number for the device, and the session is still there. -/
def Holds (h : SessionHistory) (k : Nat) (n : UInt64) (id : DeviceId) : Prop :=
  (k, .opened n id) ∈ h ∧ (k, .closed n) ∉ h ∧ (k, .ended) ∉ h

theorem numbers_append (h h' : SessionHistory) : numbers (h ++ h') = h.numbers ++ h'.numbers := List.filterMap_append

theorem mem_numbers {h : SessionHistory} {k : Nat} {n : UInt64} {id : DeviceId} (hn : (k, .opened n id) ∈ h) :
    n ∈ h.numbers := List.mem_filterMap.2 ⟨_, hn, rfl⟩

end SessionHistory

/-- What a command does to the sessions of its connection, told from its answer. -/
def Command.sessionEvent? : Command → Answer → Option SessionEvent
  | .openSession id, .deviceCreated n => some (.opened n id)
  | .closeSession n, .deviceDestroyed => some (.closed n)
  | _, _ => none

/-- What a session answers to a command that names it. -/
def Session.answer? {σ : Type} [ServedSource σ] [Arithmetic] (x : Session) (source : σ) : Command → Option Answer
  | .closeSession _ => some .deviceDestroyed
  | .onSession _ c => some (x.serve source c).1
  | _ => none

namespace Server

variable {σ : Type}

/-- The counter and the sessions are what the history says. -/
structure Follows (past : SessionHistory) (s : Server σ) : Prop where
  next : s.host.nextSession = past.numbers.length + 1
  numbers : past.numbers = (List.range past.numbers.length).map fun j => .ofNat (j + 1)
  ended : ∀ k, s.connection k = .ended ↔ (k, .ended) ∈ past
  closed : ∀ k n, (k, .closed n) ∈ past → n ∈ past.numbers
  session : ∀ k n id, (s.session? k n).map (·.id) = some id ↔ past.Holds k n id

variable {past : SessionHistory} {s t : Server σ} {k : Nat}

theorem follows_start (i : Interface) (source : σ) : (start i source).Follows [] := by
  refine ⟨rfl, rfl, fun k => iff_of_false nofun List.not_mem_nil, fun _ _ h => absurd h List.not_mem_nil,
    fun k n id => iff_of_false nofun fun h => absurd h.1 List.not_mem_nil⟩

/-- Where no number is opened or closed, the history stays. -/
theorem Follows.quiet (h : s.Follows past) (hnext : t.host.nextSession = s.host.nextSession)
    (hended : ∀ j, t.connection j = .ended ↔ s.connection j = .ended)
    (hsession : ∀ j n, (t.session? j n).map (·.id) = (s.session? j n).map (·.id)) : t.Follows past := by
  refine ⟨hnext.trans h.next, h.numbers, fun j => (hended j).trans (h.ended j), h.closed, fun j n id => ?_⟩
  rw [hsession]
  exact h.session j n id

/-- As long as the counter has not run through all numbers, the next one is new. -/
theorem Follows.fresh (h : s.Follows past) (hfew : past.numbers.length < 2 ^ 64) :
    UInt64.ofNat s.host.nextSession ∉ past.numbers := by
  rw [h.numbers, h.next, List.mem_map]
  rintro ⟨j, hj, heq⟩
  have hlt : j < past.numbers.length := List.mem_range.1 hj
  have hnat := congrArg UInt64.toNat heq
  simp only [UInt64.toNat_ofNat'] at hnat
  omega

theorem Follows.nodup_numbers (h : s.Follows past) (hfew : past.numbers.length ≤ 2 ^ 64) : past.numbers.Nodup := by
  rw [h.numbers]
  refine List.Nodup.map_on (fun i hi j hj heq => ?_) List.nodup_range
  have hlt : i < past.numbers.length := List.mem_range.1 hi
  have hlt' : j < past.numbers.length := List.mem_range.1 hj
  have hnat := congrArg UInt64.toNat heq
  simp only [UInt64.toNat_ofNat'] at hnat
  omega

theorem Follows.opens (h : s.Follows past) (hfew : past.numbers.length < 2 ^ 64) (hk : s.connection k ≠ .ended)
    {x : Session} (hnext : t.host.nextSession = s.host.nextSession + 1)
    (hsets : s.Sets k (.ofNat s.host.nextSession) (some x) t) :
    t.Follows (past ++ [(k, .opened (.ofNat s.host.nextSession) x.id)]) := by
  have hfresh := h.fresh hfew
  have hnumbers : SessionHistory.numbers (past ++ [(k, .opened (.ofNat s.host.nextSession) x.id)]) =
      past.numbers ++ [.ofNat s.host.nextSession] := SessionHistory.numbers_append ..
  refine ⟨?_, ?_, fun j => ?_, fun j n hn => ?_, fun j n id => ?_⟩
  · rw [hnumbers, hnext, h.next, List.length_append, List.length_singleton]
  · rw [hnumbers, List.length_append, List.length_singleton, List.range_succ, List.map_append, ← h.numbers, h.next]
    rfl
  · rw [hsets.ended, h.ended]
    simp
  · rw [hnumbers]
    exact List.mem_append_left _ (h.closed j n (by simpa using hn))
  · rw [hsets.session?]
    by_cases hjn : j = k ∧ n = .ofNat s.host.nextSession
    · obtain ⟨rfl, rfl⟩ := hjn
      have hopened : (j, .opened (.ofNat s.host.nextSession) id) ∉ past :=
        fun hmem => hfresh (SessionHistory.mem_numbers hmem)
      have hclosed : (j, .closed (.ofNat s.host.nextSession)) ∉ past := fun hmem => hfresh (h.closed _ _ hmem)
      have hlive : (j, .ended) ∉ past := mt (h.ended j).2 hk
      simp [SessionHistory.Holds, hopened, hclosed, hlive, eq_comm]
    · rw [if_neg hjn, h.session]
      have hother : ¬(j = k ∧ n = .ofNat s.host.nextSession ∧ id = x.id) := fun hall => hjn ⟨hall.1, hall.2.1⟩
      simp [SessionHistory.Holds, hother]

theorem Follows.closes (h : s.Follows past) {n : UInt64} {x : Session} (hx : s.session? k n = some x)
    (hnext : t.host.nextSession = s.host.nextSession) (hsets : s.Sets k n none t) :
    t.Follows (past ++ [(k, .closed n)]) := by
  have hnumbers : SessionHistory.numbers (past ++ [(k, .closed n)]) = past.numbers :=
    (SessionHistory.numbers_append ..).trans (List.append_nil _)
  have hopened : n ∈ past.numbers := by
    have hheld : past.Holds k n x.id := (h.session k n x.id).1 (by rw [hx]; rfl)
    exact SessionHistory.mem_numbers hheld.1
  refine ⟨?_, ?_, fun j => ?_, fun j m hm => ?_, fun j m id => ?_⟩
  · rw [hnumbers, hnext, h.next]
  · rw [hnumbers]
    exact h.numbers
  · rw [hsets.ended, h.ended]
    simp
  · rw [hnumbers]
    rcases List.mem_append.1 hm with hm | hm
    · exact h.closed j m hm
    · cases List.mem_singleton.1 hm
      exact hopened
  · rw [hsets.session?]
    by_cases hjm : j = k ∧ m = n
    · obtain ⟨rfl, rfl⟩ := hjm
      simp [SessionHistory.Holds]
    · rw [if_neg hjm, h.session]
      simp [SessionHistory.Holds, hjm]

theorem Follows.ends (h : s.Follows past) (k : Nat) : (s.close k).Follows (past ++ [(k, .ended)]) := by
  have hnumbers : SessionHistory.numbers (past ++ [(k, .ended)]) = past.numbers :=
    (SessionHistory.numbers_append ..).trans (List.append_nil _)
  refine ⟨?_, ?_, fun j => ?_, fun j n hn => ?_, fun j n id => ?_⟩
  · rw [hnumbers]
    exact h.next
  · rw [hnumbers]
    exact h.numbers
  · rw [close, connection_setConnection]
    by_cases hj : j = k
    · simp [hj]
    · simp [hj, h.ended]
  · rw [hnumbers]
    exact h.closed j n (by simpa using hn)
  · rw [session?_close]
    by_cases hj : j = k
    · simp [SessionHistory.Holds, hj]
    · rw [if_neg hj, h.session]
      simp [SessionHistory.Holds, hj]

variable [ServedSource σ] [Arithmetic]

/-! ## commands and the history they make -/

/-- What a call does to the sessions of its connection. -/
def sessionEvents (s : Server σ) : ServerCall → SessionHistory
  | .command k c => (((s.command k c).1.bind c.sessionEvent?).map fun e => (k, e)).toList
  | .close k => [(k, .ended)]

/-- The numbers opened and closed in a run. -/
def sessionHistory (s : Server σ) : List ServerCall → SessionHistory
  | [] => []
  | c :: rest => s.sessionEvents c ++ (s.perform c).sessionHistory rest

theorem Follows.effect (h : s.Follows past) (hk : s.connection k = .live (s.sessions k)) {c : Command} {a : Answer}
    {host : Host σ} {ss : Sessions} (he : s.host.Effect (s.sessions k) c a host ss)
    (hfew : (past ++ ((c.sessionEvent? a).map fun e => (k, e)).toList).numbers.length ≤ 2 ^ 64) :
    Follows (past ++ ((c.sessionEvent? a).map fun e => (k, e)).toList)
      ({ s with host := host }.setConnection k (.live ss)) := by
  have hended : ∀ j, ({ s with host := host }.setConnection k (.live ss)).connection j = .ended ↔
      s.connection j = .ended := by
    intro j
    rw [connection_setConnection]
    split
    · rename_i hj
      rw [hj, hk]
      exact iff_of_false nofun nofun
    · rfl
  have hsession : ∀ j n, ({ s with host := host }.setConnection k (.live ss)).session? j n =
      if j = k then ss.find? n else s.session? j n := session?_setConnection { s with host := host } k ss
  -- most commands neither open nor close anything, and a session they change keeps its device
  have hquiet : c.sessionEvent? a = none → host.nextSession = s.host.nextSession →
      (∀ n, (ss.find? n).map (·.id) = (s.session? k n).map (·.id)) →
      Follows (past ++ ((c.sessionEvent? a).map fun e => (k, e)).toList)
        ({ s with host := host }.setConnection k (.live ss)) := by
    intro hnone hnext hids
    rw [hnone, Option.map_none, Option.toList_none, List.append_nil]
    refine h.quiet hnext hended fun j n => ?_
    rw [hsession]
    split
    · rename_i hj
      rw [hj, hids]
    · rfl
  cases he with
  | question hc => exact hquiet (by cases c <;> first | rfl | cases hc) rfl fun _ => rfl
  | notOpened | submitted => exact hquiet rfl rfl fun _ => rfl
  | notSubmitted => exact hquiet rfl rfl fun _ => rfl
  | unknown hc =>
    refine hquiet ?_ rfl fun _ => rfl
    cases c with
    | openSession id => cases hc
    | _ => rfl
  | @served n c x x' a source hx hs =>
    refine hquiet rfl rfl fun m => ?_
    have hid : x'.id = x.id := by
      have hindex := x.index_serve s.host.source c
      rw [hs] at hindex
      exact congrArg (fun i => DeviceId.virtual (.ofNat i)) hindex
    rw [Sessions.find?_put]
    split
    · rename_i hm
      rw [hm, hx, session?, hx]
      exact congrArg some hid
    · rfl
  | @opened id x hx =>
    obtain rfl : x.id = id := Interface.id_of_create hx
    have hlive : s.connection k ≠ .ended := by
      rw [hk]
      nofun
    have hroom : past.numbers.length < 2 ^ 64 := by
      rw [SessionHistory.numbers_append, List.length_append] at hfew
      exact hfew
    refine h.opens hroom hlive rfl ⟨hended, fun j n => ?_⟩
    rw [hsession, Sessions.find?_add]
    by_cases hj : j = k
    · simp [hj, session?]
    · simp [hj]
  | @closed n x hx =>
    refine h.closes hx rfl ⟨hended, fun j m => ?_⟩
    rw [hsession, Sessions.find?_erase]
    by_cases hj : j = k
    · simp [hj, session?]
    · simp [hj]

theorem Follows.perform (h : s.Follows past) (c : ServerCall)
    (hfew : (past ++ s.sessionEvents c).numbers.length ≤ 2 ^ 64) :
    (s.perform c).Follows (past ++ s.sessionEvents c) := by
  cases c with
  | command k c =>
    rcases s.command_cases k c with ⟨-, hc⟩ | ⟨a, host, ss, hk, he, hc⟩
    · simp only [Server.perform, sessionEvents, hc, Option.bind_none, Option.map_none, Option.toList_none,
        List.append_nil]
      exact h
    · simp only [Server.perform, sessionEvents, hc, Option.bind_some] at hfew ⊢
      exact h.effect hk he hfew
  | close k => exact h.ends k

theorem Follows.run (h : s.Follows past) (calls : List ServerCall)
    (hfew : (past ++ s.sessionHistory calls).numbers.length ≤ 2 ^ 64) :
    (s.run calls).Follows (past ++ s.sessionHistory calls) := by
  induction calls generalizing s past with
  | nil =>
    rw [sessionHistory, List.append_nil]
    exact h
  | cons c rest ih =>
    rw [sessionHistory, ← List.append_assoc] at hfew ⊢
    have hroom : (past ++ s.sessionEvents c).numbers.length ≤ 2 ^ 64 := by
      rw [SessionHistory.numbers_append, List.length_append] at hfew
      omega
    exact ih (h.perform c hroom) hfew

/-! ## reaching a session -/

theorem command_unknown (hk : s.connection k ≠ .ended) {c : Command} {n : UInt64} (hc : c.session? = some n)
    (hn : s.session? k n = none) : (s.command k c).1 = some (noSuchSession n) ∧ (s.command k c).2.Same s := by
  have hfind : (s.sessions k).find? n = none := hn
  have hserve : s.host.serve (s.sessions k) c = (noSuchSession n, s.host, s.sessions k) := by
    cases c with
    | closeSession m | onSession m c =>
      obtain rfl : m = n := Option.some.inj hc
      simp only [Host.serve, Host.destroy, Host.onSession, hfind]
    | ping | listDevices | openSession | submitFrame | listAssignments => cases hc
  refine ⟨by rw [command_live hk, hserve], same_command hk ?_ fun m => ?_⟩
  · rw [hserve]
  · rw [hserve]
    rfl

theorem command_known (hk : s.connection k ≠ .ended) {c : Command} {n : UInt64} (hc : c.session? = some n)
    {x : Session} (hx : s.session? k n = some x) : (s.command k c).1 = x.answer? s.host.source c := by
  have hfind : (s.sessions k).find? n = some x := hx
  rw [command_live hk]
  cases c with
  | closeSession m | onSession m c =>
    obtain rfl : m = n := Option.some.inj hc
    simp only [Host.serve, Host.destroy, Host.onSession, hfind, Session.answer?]
  | ping | listDevices | openSession | submitFrame | listAssignments => cases hc

/-- As long as no more numbers are handed out than there are, no two of them are the same, however many sessions and
connections have been closed in between. A command that names a number reaches a session exactly if its own connection
was handed the number and has not closed the session since; the session then is the one of the device the number was
handed out for, and its answer is the command's. Otherwise the command fails, and the server is as it was. -/
theorem reached_iff_opened (i : Interface) (source : σ) (calls : List ServerCall)
    (hfew : ((start i source).sessionHistory calls).numbers.length ≤ 2 ^ 64) :
    let s := (start i source).run calls
    let h := (start i source).sessionHistory calls
    h.numbers.Nodup ∧ ∀ k n c, (k, .ended) ∉ h → c.session? = some n →
      ((∃ x, s.session? k n = some x) ↔ (∃ id, (k, .opened n id) ∈ h) ∧ (k, .closed n) ∉ h) ∧
      (∀ x, s.session? k n = some x →
        (k, .opened n x.id) ∈ h ∧ (s.command k c).1 = x.answer? s.host.source c) ∧
      (s.session? k n = none → (s.command k c).1 = some (noSuchSession n) ∧ (s.command k c).2.Same s) := by
  intro s h
  have hfollows : s.Follows h := (follows_start i source).run calls hfew
  refine ⟨hfollows.nodup_numbers hfew, fun k n c hk hc => ?_⟩
  have hlive : s.connection k ≠ .ended := mt (hfollows.ended k).1 hk
  refine ⟨⟨?_, ?_⟩, fun x hx => ?_, fun hnone => ?_⟩
  · rintro ⟨x, hx⟩
    have hheld : h.Holds k n x.id := (hfollows.session k n x.id).1 (by rw [hx]; rfl)
    exact ⟨⟨x.id, hheld.1⟩, hheld.2.1⟩
  · rintro ⟨⟨id, hopened⟩, hclosed⟩
    obtain ⟨x, hx, -⟩ := Option.map_eq_some_iff.1 ((hfollows.session k n id).2 ⟨hopened, hclosed, hk⟩)
    exact ⟨x, hx⟩
  · have hheld : h.Holds k n x.id := (hfollows.session k n x.id).1 (by rw [hx]; rfl)
    exact ⟨hheld.1, command_known hlive hc hx⟩
  · exact command_unknown hlive hc hnone

end Server

/-- After a session is closed and a connection with another one ends, a third connection is handed a third number; it
reaches its own session, and not the one that ended with its connection. -/
theorem Server.unreached_after_ended :
    letI : Arithmetic := .binary
    let calls : List ServerCall :=
      [.command 0 (.openSession (.virtual 0)), .command 1 (.openSession (.virtual 1)), .command 0 (.closeSession 1),
        .close 1, .command 2 (.openSession (.virtual 0))]
    let s := (Server.start ⟨.wide, .standard, .none⟩ (Feed.ofCount 2)).run calls
    (s.command 2 (.onSession 3 .acquire)).1 = some .ok ∧
      (s.command 2 (.onSession 2 .acquire)).1 = some (noSuchSession 2) ∧
      (s.command 2 (.onSession 2 .acquire)).2.Same s := by
  let : Arithmetic := .binary
  intro calls s
  have hhistory : (Server.start ⟨.wide, .standard, .none⟩ (Feed.ofCount 2)).sessionHistory calls =
      [(0, .opened 1 (.virtual 0)), (1, .opened 2 (.virtual 1)), (0, .closed 1), (1, .ended),
        (2, .opened 3 (.virtual 0))] := by decide +kernel
  obtain ⟨-, hnamed⟩ := Server.reached_iff_opened ⟨.wide, .standard, .none⟩ (Feed.ofCount 2) calls (by decide +kernel)
  rw [hhistory] at hnamed
  obtain ⟨hreached, hanswer, -⟩ := hnamed 2 3 (.onSession 3 .acquire) (by decide) rfl
  obtain ⟨x, hx⟩ := hreached.2 ⟨⟨.virtual 0, by decide⟩, by decide⟩
  obtain ⟨hunreached, -, hrefused⟩ := hnamed 2 2 (.onSession 2 .acquire) (by decide) rfl
  have hnone : s.session? 2 2 = none := by
    rw [Option.eq_none_iff_forall_ne_some]
    intro y hy
    obtain ⟨⟨id, hopened⟩, -⟩ := hunreached.1 ⟨y, hy⟩
    simp at hopened
  exact ⟨(hanswer x hx).2, hrefused hnone⟩

end GamepadPool
