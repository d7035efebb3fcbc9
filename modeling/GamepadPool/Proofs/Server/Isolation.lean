import GamepadPool.Proofs.Server.Frames
import GamepadPool.Proofs.Server.Numbers
/-! # Isolation of sessions
Sessions share the source of inputs, the counter and, on one connection, the map of sessions. Still a session cannot
tell whether other sessions, be they of its own device, were given their commands: a run from which such commands are
left out answers it alike. A poll is the exception, for it publishes what is staged for all sessions of its device; so
polls of the same device have to stay, and must not reach a session in the thinned run only. -/

namespace GamepadPool

/-! ## feeds that look the same to one device -/

namespace Feed

theorem staged_publish (f : Feed) (d : Nat) : (f.publish d).staged = f.staged := by
  unfold publish
  split <;> rfl

theorem published_publish_ne (f : Feed) {d i : Nat} (h : d ≠ i) : (f.publish d).published[i]? = f.published[i]? := by
  unfold publish
  split
  · exact List.getElem?_set_ne h
  · rfl

/-- The same frames are staged, and the same frame is published for the device. -/
structure AlikeFor (i : Nat) (f g : Feed) : Prop where
  staged : f.staged = g.staged
  published : f.published[i]? = g.published[i]?

variable {i d : Nat} {f g : Feed}

theorem AlikeFor.publish (h : f.AlikeFor i g) (d : Nat) : (f.publish d).AlikeFor i (g.publish d) := by
  refine ⟨by rw [staged_publish, staged_publish, h.staged], ?_⟩
  by_cases hd : d = i
  · subst hd
    unfold Feed.publish
    rw [h.staged]
    cases g.staged[d]? with
    | none => exact h.published
    | some x => simp only [List.getElem?_set_self', h.published]
  · rw [published_publish_ne f hd, published_publish_ne g hd, h.published]

theorem AlikeFor.publish_left (h : f.AlikeFor i g) (hd : d ≠ i) : (f.publish d).AlikeFor i g :=
  ⟨(staged_publish f d).trans h.staged, (published_publish_ne f hd).trans h.published⟩

theorem AlikeFor.publish_right (h : f.AlikeFor i g) (hd : d ≠ i) : f.AlikeFor i (g.publish d) :=
  ⟨h.staged.trans (staged_publish g d).symm, h.published.trans (published_publish_ne g hd).symm⟩

end Feed

namespace Host

/-- The same host, except for what is published for other devices. -/
structure AlikeFor (i : Nat) (h g : Host Feed) : Prop where
  interface : h.interface = g.interface
  nextSession : h.nextSession = g.nextSession
  source : h.source.AlikeFor i g.source

variable {i : Nat} {h g : Host Feed}

theorem AlikeFor.create (ha : h.AlikeFor i g) (id : DeviceId) :
    h.interface.create (SnapshotSource.deviceCount h.source) id =
      g.interface.create (SnapshotSource.deviceCount g.source) id := by
  have hcount : SnapshotSource.deviceCount h.source = SnapshotSource.deviceCount g.source :=
    congrArg List.length ha.source.staged
  rw [ha.interface, hcount]

theorem AlikeFor.submit (ha : h.AlikeFor i g) (ss ss' : Sessions) (index : Nat) (inputs : Snapshot) :
    (h.submit ss index inputs).2.1.AlikeFor i (g.submit ss' index inputs).2.1 := by
  by_cases hindex : index < g.source.staged.length
  · simp only [Host.submit, ServedSource.submit?, Feed.submit, ha.source.staged, if_pos hindex]
    exact ⟨ha.interface, ha.nextSession, rfl, ha.source.published⟩
  · simp only [Host.submit, ServedSource.submit?, Feed.submit, ha.source.staged, if_neg hindex]
    exact ha

end Host

/-- An answer depends on the source only in what it shows for the device. -/
theorem Session.answer?_congr [Arithmetic] (x : Session) {f g : Feed} (h : f.published[x.index]? = g.published[x.index]?)
    (c : Command) : x.answer? f c = x.answer? g c := by
  cases c with
  | onSession n c =>
    have hsnapshot : SnapshotSource.snapshot f x.index = SnapshotSource.snapshot g x.index :=
      congrArg (·.getD .neutral) h
    cases c with
    | setFormat format => simp only [answer?, serve]; cases x.setFormat format <;> rfl
    | setProperty p t v => simp only [answer?, serve]; cases x.setProperty p t v <;> rfl
    | getProperty p t => simp only [answer?, serve]; cases x.getProperty p t <;> rfl
    | readState size =>
      have hread : x.read f size.toNat = x.read g size.toNat := by simp only [read, hsnapshot]
      simp only [answer?, serve, hread]
      cases x.read g size.toNat <;> rfl
    | capabilities | info | listObjects | setCooperation | acquire | unacquire | poll => rfl
  | _ => rfl

namespace Server

variable [Arithmetic] in
/-- A poll that reaches a session publishes what is staged for its device. -/
theorem host_poll (s : Server Feed) (k : Nat) (n : UInt64) :
    (s.command k (.onSession n .poll)).2.host =
      { s.host with source := (s.device? k n).elim s.host.source s.host.source.publish } := by
  by_cases hk : s.connection k = .ended
  · rw [command_ended hk, device?, session?_of_ended hk]
    rfl
  · rw [host_command hk, device?, session?]
    simp only [Host.serve, Host.onSession]
    cases (s.sessions k).find? n with
    | none => rfl
    | some x => rfl

/-! ## two runs that a session cannot tell apart -/

section Agrees

/-- The second server is the first one as far as a session and the frames of its device go. A session of the first is
one of the second, on the same device; `gone` are those that only the second has, of the device in question. -/
structure Agrees (k : Nat) (m : UInt64) (i : Nat) (gone : Nat → UInt64 → Prop) (s t : Server Feed) : Prop where
  host : s.host.AlikeFor i t.host
  ended : ∀ j, s.connection j = .ended ↔ t.connection j = .ended
  session : s.session? k m = t.session? k m
  device : ∀ j n d, s.device? j n = some d → t.device? j n = some d
  gone : ∀ j n, s.device? j n = none → t.device? j n = some i → gone j n

variable {k : Nat} {m : UInt64} {i : Nat} {gone gone' : Nat → UInt64 → Prop} {s s' t t' : Server Feed} {j : Nat}
  {n : UInt64} {x? y? : Option Session}

theorem Agrees.refl (s : Server Feed) : Agrees k m i gone s s := by
  refine ⟨⟨rfl, rfl, rfl, rfl⟩, fun _ => .rfl, rfl, fun _ _ _ h => h, fun j n hnone hsome => ?_⟩
  rw [hnone] at hsome
  cases hsome

theorem Agrees.mono (h : Agrees k m i gone s t) (hgone : ∀ j n, gone j n → gone' j n) : Agrees k m i gone' s t :=
  { h with gone := fun j n hnone hsome => hgone j n (h.gone j n hnone hsome) }

/-- Each side sets the same session. -/
theorem Agrees.sets (h : Agrees k m i gone s t) (hhost : s'.host.AlikeFor i t'.host) (hs : s.Sets j n x? s')
    (ht : t.Sets j n y? t') (hsession : j = k → n = m → x? = y?)
    (hdevice : ∀ d, x?.map (·.index) = some d → y?.map (·.index) = some d)
    (hgone : x?.map (·.index) = none → y?.map (·.index) = some i → gone j n) : Agrees k m i gone s' t' := by
  refine ⟨hhost, fun l => (hs.ended l).trans ((h.ended l).trans (ht.ended l).symm), ?_, fun l o d => ?_, fun l o => ?_⟩
  · rw [hs.session?, ht.session?]
    split
    · rename_i hkm
      exact hsession hkm.1.symm hkm.2.symm
    · exact h.session
  · rw [hs.device?, ht.device?]
    split
    · exact hdevice d
    · exact h.device l o d
  · rw [hs.device?, ht.device?]
    split
    · rename_i hlo
      rw [hlo.1, hlo.2]
      exact hgone
    · exact h.gone l o

theorem Agrees.close (h : Agrees k m i gone s t) (j : Nat) : Agrees k m i gone (s.close j) (t.close j) := by
  refine ⟨h.host, fun l => ?_, ?_, fun l n d => ?_, fun l n => ?_⟩
  · simp only [Server.close, connection_setConnection]
    split
    · exact .rfl
    · exact h.ended l
  · rw [session?_close, session?_close, h.session]
  · simp only [device?, session?_close]
    split
    · exact id
    · exact h.device l n d
  · simp only [device?, session?_close]
    split
    · intro _ hsome
      cases hsome
    · exact h.gone l n

variable [Arithmetic]

/-- A command that leaves the sessions of its connection on either side. -/
theorem Agrees.quiet (h : Agrees k m i gone s t) (hs : s.connection j ≠ .ended) {c : Command}
    (hhost : (s.host.serve (s.sessions j) c).2.1.AlikeFor i (t.host.serve (t.sessions j) c).2.1)
    (hss : (s.host.serve (s.sessions j) c).2.2 = s.sessions j)
    (hts : (t.host.serve (t.sessions j) c).2.2 = t.sessions j) :
    Agrees k m i gone (s.command j c).2 (t.command j c).2 := by
  have ht : t.connection j ≠ .ended := mt (h.ended j).2 hs
  refine h.sets ?_ (sets_quiet hs hss m) (sets_quiet ht hts m) ?_ (h.device j m) (h.gone j m)
  · rw [host_command hs, host_command ht]
    exact hhost
  · rintro rfl -
    exact h.session

theorem Agrees.onSession (h : Agrees k m i gone s t) {c : SessionCommand}
    (hpoll : c = .poll → s.device? j n = none → ¬gone j n) :
    Agrees k m i gone (s.command j (.onSession n c)).2 (t.command j (.onSession n c)).2 := by
  refine h.sets ?_ (s.sets_onSession j n c) (t.sets_onSession j n c) ?_ ?_ ?_
  · by_cases hc : c = .poll
    · subst hc
      rw [host_poll, host_poll]
      refine ⟨h.host.interface, h.host.nextSession, ?_⟩
      cases hs : s.device? j n with
      | some d =>
        rw [h.device j n d hs]
        exact h.host.source.publish d
      | none =>
        cases ht : t.device? j n with
        | none => exact h.host.source
        | some d =>
          refine h.host.source.publish_right ?_
          rintro rfl
          exact hpoll rfl hs (h.gone j n hs ht)
    · rw [host_onSession s j n hc, host_onSession t j n hc]
      exact h.host
  · rintro rfl rfl
    rw [h.session]
    exact congrArg (Option.map · (t.session? j n)) (funext fun x => x.session_serve_congr ..)
  · rw [index_map_serve, index_map_serve]
    exact h.device j n
  · rw [index_map_serve, index_map_serve]
    exact h.gone j n

theorem Agrees.openSession (h : Agrees k m i gone s t) (hs : s.connection j ≠ .ended) (id : DeviceId) :
    Agrees k m i gone (s.command j (.openSession id)).2 (t.command j (.openSession id)).2 := by
  have ht : t.connection j ≠ .ended := mt (h.ended j).2 hs
  cases hx : s.host.interface.create (SnapshotSource.deviceCount s.host.source) id with
  | error e =>
    have hx' : t.host.interface.create (SnapshotSource.deviceCount t.host.source) id = .error e :=
      (h.host.create id).symm.trans hx
    refine h.quiet hs ?_ ?_ ?_
    · simp only [Host.serve, Host.create, hx, hx']
      exact h.host
    · simp only [Host.serve, Host.create, hx]
    · simp only [Host.serve, Host.create, hx']
  | ok x =>
    have hx' : t.host.interface.create (SnapshotSource.deviceCount t.host.source) id = .ok x :=
      (h.host.create id).symm.trans hx
    have hsets := sets_openSession ht hx'
    rw [← h.host.nextSession] at hsets
    refine h.sets ?_ (sets_openSession hs hx) hsets (fun _ _ => rfl) (fun _ hd => hd) fun hnone => by cases hnone
    rw [host_command hs, host_command ht]
    simp only [Host.serve, Host.create, hx, hx']
    exact ⟨h.host.interface, congrArg (· + 1) h.host.nextSession, h.host.source⟩

/-- A command that stays. -/
theorem Agrees.command (h : Agrees k m i gone s t) {c : Command}
    (hpoll : ∀ n, c = .onSession n .poll → s.device? j n = none → ¬gone j n) :
    Agrees k m i gone (s.command j c).2 (t.command j c).2 := by
  by_cases hs : s.connection j = .ended
  · rw [command_ended hs, command_ended ((h.ended j).1 hs)]
    exact h
  cases c with
  | ping | listDevices | listAssignments => exact h.quiet hs h.host rfl rfl
  | openSession id => exact h.openSession hs id
  | closeSession n =>
    refine h.sets ?_ (s.sets_closeSession j n) (t.sets_closeSession j n) (fun _ _ => rfl) nofun nofun
    rw [host_closeSession, host_closeSession]
    exact h.host
  | onSession n c => exact h.onSession fun hc => hpoll n (by rw [hc])
  | submitFrame index inputs =>
    exact h.quiet hs (h.host.submit ..) (Host.sessions_submit ..) (Host.sessions_submit ..)

/-- Feeds that look the same to the device of a session give it the same answers. -/
theorem Agrees.answer (h : Agrees k m i gone s t) (hi : ∀ d ∈ s.device? k m, d = i) {c : Command}
    (hc : c.session? = some m) : (s.command k c).1 = (t.command k c).1 := by
  by_cases hs : s.connection k = .ended
  · rw [command_ended hs, command_ended ((h.ended k).1 hs)]
  have ht : t.connection k ≠ .ended := mt (h.ended k).2 hs
  cases hx : s.session? k m with
  | none => rw [(command_unknown hs hc hx).1, (command_unknown ht hc (h.session.symm.trans hx)).1]
  | some x =>
    rw [command_known hs hc hx, command_known ht hc (h.session.symm.trans hx)]
    have hindex : x.index = i := hi x.index (by rw [device?, hx]; rfl)
    refine x.answer?_congr ?_ c
    rw [hindex]
    exact h.host.source.published

/-- A call that may be left out: it names another session, and it does not poll the device. -/
def Spares (s : Server Feed) (k : Nat) (m : UInt64) (i : Nat) : ServerCall → Prop
  | .command j (.closeSession n) => (j, n) ≠ (k, m)
  | .command j (.onSession n c) => (j, n) ≠ (k, m) ∧ (c = .poll → s.device? j n ≠ some i)
  | _ => False

/-- A command that is left out. -/
theorem Agrees.spare (h : Agrees k m i gone s t) {c : ServerCall} (hc : s.Spares k m i c)
    (hgone : ∀ j n, c = .command j (.closeSession n) → s.device? j n = some i → gone j n) :
    Agrees k m i gone (s.perform c) t := by
  rcases c with ⟨j, c⟩ | j
  · cases c with
    | closeSession n =>
      have hother : j = k → n = m → none = t.session? j n := fun hj hn => absurd (by rw [hj, hn]) hc
      refine h.sets ?_ (s.sets_closeSession j n) (t.sets_self j n) hother nofun fun _ ht => ?_
      · rw [perform, host_closeSession]
        exact h.host
      · cases hs : s.device? j n with
        | none => exact h.gone j n hs ht
        | some d =>
          have hd : t.device? j n = some d := h.device j n d hs
          obtain rfl : i = d := Option.some.inj (ht.symm.trans hd)
          exact hgone j n rfl hs
    | onSession n c =>
      obtain ⟨hother, hpoll⟩ := hc
      refine h.sets ?_ (s.sets_onSession j n c) (t.sets_self j n) ?_ ?_ ?_
      · by_cases hc : c = .poll
        · subst hc
          rw [perform, host_poll]
          refine ⟨h.host.interface, h.host.nextSession, ?_⟩
          cases hs : s.device? j n with
          | none => exact h.host.source
          | some d => exact h.host.source.publish_left fun hd => hpoll rfl (hd ▸ hs)
        · rw [perform, host_onSession s j n hc]
          exact h.host
      · exact fun hj hn => absurd (by rw [hj, hn]) hother
      · rw [index_map_serve]
        exact h.device j n
      · rw [index_map_serve]
        exact h.gone j n
    | ping | listDevices | listAssignments | openSession | submitFrame => exact hc.elim
  · exact hc.elim

theorem Agrees.perform (h : Agrees k m i gone s t) {c : ServerCall}
    (hpoll : ∀ j n, c = .command j (.onSession n .poll) → s.device? j n = none → ¬gone j n) :
    Agrees k m i gone (s.perform c) (t.perform c) := by
  cases c with
  | command j c => exact h.command fun n hc => hpoll j n (by rw [hc])
  | close j => exact h.close j

end Agrees

/-! ## thinned runs -/

section Thinned

/-- A run of calls, each with whether it stays when the run is thinned. -/
abbrev Selection := List (ServerCall × Bool)

/-- All calls of the run. -/
def Selection.full (r : Selection) : List ServerCall := r.map (·.1)

/-- The calls that stay. -/
def Selection.thinned (r : Selection) : List ServerCall := (r.filter (·.2)).map (·.1)

variable [Arithmetic]

/-- What the full run has made of the server before one of its calls. -/
def before (s : Server Feed) (r : Selection) (p : Nat) : Server Feed := s.run (Selection.full (r.take p))

/-- What commands on a session of a connection are answered in a run, in order. -/
def answersTo (s : Server Feed) (k : Nat) (m : UInt64) : List ServerCall → List (Option Answer)
  | [] => []
  | .command j c :: rest =>
    (if j = k ∧ c.session? = some m then [(s.command j c).1] else []) ++ (s.command j c).2.answersTo k m rest
  | .close j :: rest => (s.close j).answersTo k m rest

/-- What is left out of a run for a session of the device are commands on other sessions, and no poll of the device. -/
structure Thins (s : Server Feed) (k : Nat) (m : UInt64) (i : Nat) (r : Selection) : Prop where
  device : ∀ p < r.length, ∀ d ∈ (s.before r p).device? k m, d = i
  spares : ∀ p c, r[p]? = some (c, false) → (s.before r p).Spares k m i c
  /-- Where the closing of a session of the device is left out, so are the polls that found the session gone. -/
  polls : ∀ p q j n, p < q → r[p]? = some (.command j (.closeSession n), false) →
    (s.before r p).device? j n = some i → r[q]? = some (.command j (.onSession n .poll), true) →
    (s.before r q).device? j n ≠ none

variable {s t : Server Feed} {k : Nat} {m : UInt64} {i : Nat} {c : ServerCall} {b : Bool} {r : Selection}

theorem Thins.tail (h : s.Thins k m i ((c, b) :: r)) : (s.perform c).Thins k m i r := by
  refine ⟨fun p hp => h.device (p + 1) (Nat.succ_lt_succ hp), fun p => h.spares (p + 1), fun p q j n hpq => ?_⟩
  exact h.polls (p + 1) (q + 1) j n (Nat.succ_lt_succ hpq)

/-- What is left out is not among the commands on the session. -/
theorem Spares.answersTo (h : s.Spares k m i c) (rest : List ServerCall) :
    s.answersTo k m (c :: rest) = (s.perform c).answersTo k m rest := by
  rcases c with ⟨j, c⟩ | j
  · have hother : ¬(j = k ∧ c.session? = some m) := by
      rintro ⟨rfl, hm⟩
      cases c with
      | closeSession n =>
        obtain rfl : n = m := Option.some.inj hm
        exact h rfl
      | onSession n c =>
        obtain rfl : n = m := Option.some.inj hm
        exact h.1 rfl
      | ping | listDevices | listAssignments | openSession | submitFrame => exact h
    rw [Server.answersTo, if_neg hother]
    rfl
  · exact h.elim

theorem Agrees.answersTo {gone : Nat → UInt64 → Prop} (h : Agrees k m i gone s t) (hr : s.Thins k m i r)
    (hgone : ∀ j n, gone j n → ∀ q, r[q]? = some (.command j (.onSession n .poll), true) →
      (s.before r q).device? j n ≠ none) :
    s.answersTo k m r.full = t.answersTo k m r.thinned := by
  induction r generalizing s t gone with
  | nil => rfl
  | cons call r ih =>
    obtain ⟨c, b⟩ := call
    cases b with
    | true =>
      have hnext : Agrees k m i gone (s.perform c) (t.perform c) := by
        refine h.perform ?_
        rintro j n rfl hnone hg
        exact hgone j n hg 0 rfl hnone
      have hrest := ih hnext hr.tail fun j n hg q => hgone j n hg (q + 1)
      cases c with
      | command j c =>
        show (if _ then _ else _) ++ _ = (if _ then _ else _) ++ _
        by_cases hc : j = k ∧ c.session? = some m
        · obtain ⟨rfl, hm⟩ := hc
          have hanswer := h.answer (hr.device 0 (Nat.succ_pos _)) hm
          rw [hanswer]
          exact congrArg _ hrest
        · rw [if_neg hc, if_neg hc]
          exact hrest
      | close j => exact hrest
    | false =>
      have hspares : s.Spares k m i c := hr.spares 0 c rfl
      -- a session that is gone from now on is one whose closing is left out here
      let gone' j n := gone j n ∨ c = .command j (.closeSession n) ∧ s.device? j n = some i
      have hnext : Agrees k m i gone' (s.perform c) t :=
        (h.mono fun j n => .inl).spare hspares fun j n hc hi => .inr ⟨hc, hi⟩
      have hrest := ih hnext hr.tail ?_
      · exact (hspares.answersTo _).trans hrest
      · rintro j n (hg | ⟨rfl, hi⟩) q hq
        · exact hgone j n hg (q + 1) hq
        · exact hr.polls 0 (q + 1) j n (Nat.succ_pos q) rfl hi hq

/-- Take a run in which the commands on a session find it on one device at most, and leave out of it any commands on
other sessions, though no polls of that device; a closing of a session of the device may be left out if the polls that
found the session gone are too. Every command on the session is answered as in the full run, whether the other sessions
are open on the same device, on the same connection, or both. -/
theorem answersTo_thinned (h : s.Thins k m i r) : s.answersTo k m r.full = s.answersTo k m r.thinned :=
  (Agrees.refl s).answersTo h fun _ _ => False.elim

end Thinned

end Server

/-- Where the closing of the other session is left out and the poll after it is not, the poll no longer fails, and the
session sees a frame that it does not see in the full run. -/
theorem Server.published_by_revived_session :
    letI : Arithmetic := .binary
    let pressed : Snapshot := Snapshot.neutral.setButton .west true
    let button : ObjectRequest := ⟨none, 0, TypeBits.button ||| TypeBits.anyInstance, 0⟩
    let r : Server.Selection :=
      [(.command 0 (.openSession (.virtual 0)), true), (.command 1 (.openSession (.virtual 0)), true),
        (.command 0 (.onSession 1 (.setFormat ⟨0, 4, [button]⟩)), true), (.command 0 (.submitFrame 0 pressed), true),
        (.command 1 (.closeSession 2), false), (.command 1 (.onSession 2 .poll), true),
        (.command 0 (.onSession 1 (.readState 4)), true)]
    let s := Server.start ⟨.wide, .standard, .none⟩ (Feed.ofCount 1)
    (∀ p < r.length, ∀ d ∈ (s.before r p).device? 0 1, d = 0) ∧
      (∀ p c, r[p]? = some (c, false) → (s.before r p).Spares 0 1 0 c) ∧
      s.answersTo 0 1 r.full = [some .ok, some (.state [0, 0, 0, 0])] ∧
      s.answersTo 0 1 r.thinned = [some .ok, some (.state [128, 0, 0, 0])] := by
  let : Arithmetic := .binary
  intro pressed button r s
  refine ⟨by decide +kernel, fun p c hc => ?_, by decide +kernel, by decide +kernel⟩
  match p with
  | 4 =>
    cases hc
    exact (by decide : ((1 : Nat), (2 : UInt64)) ≠ (0, 1))
  | 0 | 1 | 2 | 3 | 5 | 6 | _ + 7 => cases hc

/-- Of two other sessions of the device, one on the same connection is given no format, and one on another connection is
not closed and not polled in vain; the session is answered alike. -/
theorem Server.answersTo_thinned_pressed :
    letI : Arithmetic := .binary
    let pressed : Snapshot := Snapshot.neutral.setButton .west true
    let button : ObjectRequest := ⟨none, 0, TypeBits.button ||| TypeBits.anyInstance, 0⟩
    let r : Server.Selection :=
      [(.command 0 (.openSession (.virtual 0)), true), (.command 0 (.openSession (.virtual 0)), true),
        (.command 1 (.openSession (.virtual 0)), true), (.command 0 (.onSession 1 (.setFormat ⟨0, 4, [button]⟩)), true),
        (.command 0 (.onSession 2 (.setFormat .joystick)), false), (.command 0 (.submitFrame 0 pressed), true),
        (.command 1 (.closeSession 3), false), (.command 1 (.onSession 3 .poll), false),
        (.command 0 (.onSession 1 .poll), true), (.command 0 (.onSession 1 (.readState 4)), true)]
    let s := Server.start ⟨.wide, .standard, .none⟩ (Feed.ofCount 1)
    s.answersTo 0 1 r.full = s.answersTo 0 1 r.thinned ∧
      s.answersTo 0 1 r.thinned = [some .ok, some .ok, some (.state [128, 0, 0, 0])] := by
  let : Arithmetic := .binary
  intro pressed button r s
  refine ⟨Server.answersTo_thinned (i := 0) ⟨by decide +kernel, fun p c hc => ?_, ?_⟩, by decide +kernel⟩
  · match p with
    | 4 =>
      cases hc
      exact ⟨by decide, nofun⟩
    | 6 =>
      cases hc
      exact (by decide : ((1 : Nat), (3 : UInt64)) ≠ (0, 1))
    | 7 =>
      cases hc
      exact ⟨by decide, fun _ => by decide +kernel⟩
    | 0 | 1 | 2 | 3 | 5 | 8 | 9 | _ + 10 => cases hc
  · intro p q j n _ hp _ hq
    have hclosing := List.mem_of_getElem? hp
    have hpoll := List.mem_of_getElem? hq
    obtain ⟨rfl, rfl⟩ : j = 1 ∧ n = 3 := by simpa [r] using hclosing
    -- the only poll that stays is the session's own
    simp [r] at hpoll

end GamepadPool
