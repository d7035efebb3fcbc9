import GamepadPool.Proofs.Entries
import GamepadPool.Proofs.Server.Calls
import Mathlib.Data.List.DropRight
/-! # What a session sees of submitted frames
One command stages a frame and another publishes it, and both may come on any connection. What is read of a device is
the last frame that was submitted for it before it was last polled. -/

namespace GamepadPool

/-- What commands do to the frames of a device. -/
inductive FrameEvent where
  | submitted (inputs : Snapshot)
  | polled

/-- Events by device, in the order they happened. -/
abbrev FrameHistory := List (Nat × FrameEvent)

namespace FrameEvent

def frame? : FrameEvent → Option Snapshot
  | submitted inputs => some inputs
  | polled => none

def isPoll : FrameEvent → Bool
  | submitted _ => false
  | polled => true

/-- The frame submitted last, or a device at rest. -/
def lastFrame (events : List FrameEvent) : Snapshot := (events.filterMap frame?).getLast?.getD .neutral

/-- What precedes the last poll; nothing where there is none. -/
def beforePoll (events : List FrameEvent) : List FrameEvent := (events.rdropWhile (!·.isPoll)).dropLast

variable (events : List FrameEvent)

theorem lastFrame_submitted (inputs : Snapshot) : lastFrame (events ++ [.submitted inputs]) = inputs := by
  simp [lastFrame, frame?]

theorem lastFrame_polled : lastFrame (events ++ [.polled]) = lastFrame events := by
  simp [lastFrame, frame?]

theorem beforePoll_submitted (inputs : Snapshot) : beforePoll (events ++ [.submitted inputs]) = beforePoll events := by
  simp [beforePoll, isPoll]

theorem beforePoll_polled : beforePoll (events ++ [.polled]) = events := by
  simp [beforePoll, isPoll]

end FrameEvent

/-! ## the feed holds what its history says -/

namespace Feed

variable {n : Nat} {past : FrameHistory} {f f' : Feed}

/-- A feed of `n` devices after all that happened. -/
structure Holds (n : Nat) (past : FrameHistory) (f : Feed) : Prop where
  staged : ∀ i, f.staged[i]? = if i < n then some (FrameEvent.lastFrame (eventsOf past i)) else none
  published : ∀ i,
    f.published[i]? = if i < n then some (FrameEvent.lastFrame (FrameEvent.beforePoll (eventsOf past i))) else none

theorem holds_ofCount : (ofCount n).Holds n [] := by
  constructor <;> intro i <;> simp only [ofCount, List.getElem?_replicate] <;> rfl

theorem Holds.deviceCount (h : f.Holds n past) : SnapshotSource.deviceCount f = n := by
  have hlen : ∀ i, i < f.staged.length ↔ i < n := by
    intro i
    have hi := h.staged i
    by_cases hn : i < n
    · rw [if_pos hn] at hi
      exact iff_of_true (List.getElem?_eq_some_iff.1 hi).1 hn
    · rw [if_neg hn, List.getElem?_eq_none_iff] at hi
      exact iff_of_false (by omega) hn
  have hlt := hlen n
  have hgt := hlen f.staged.length
  show f.staged.length = n
  omega

theorem Holds.submit (h : f.Holds n past) {j : Nat} {inputs : Snapshot} (hs : f.submit j inputs = .ok f') :
    f'.Holds n (past ++ [(j, .submitted inputs)]) := by
  unfold Feed.submit at hs
  split at hs
  · rename_i hj
    cases hs
    have hcount : f.staged.length = n := h.deviceCount
    constructor <;> intro i <;> rw [eventsOf_snoc]
    · by_cases hi : j = i
      · subst hi
        simp [FrameEvent.lastFrame_submitted, hj, hcount ▸ hj]
      · simp [hi, h.staged i]
    · rw [apply_ite FrameEvent.beforePoll, FrameEvent.beforePoll_submitted, ite_self]
      exact h.published i
  · cases hs

theorem Holds.publish (h : f.Holds n past) (j : Nat) : (f.publish j).Holds n (past ++ [(j, .polled)]) := by
  have hj := h.staged j
  unfold Feed.publish
  constructor <;> intro i <;> rw [eventsOf_snoc]
  · rw [apply_ite FrameEvent.lastFrame, FrameEvent.lastFrame_polled, ite_self, ← h.staged i]
    split <;> rfl
  · by_cases hi : j = i
    · subst hi
      rw [if_pos rfl, FrameEvent.beforePoll_polled]
      have hpublished := h.published j
      by_cases hn : j < n
      · rw [if_pos hn] at hj hpublished ⊢
        rw [hj]
        exact List.getElem?_set_self (List.getElem?_eq_some_iff.1 hpublished).1
      · rw [if_neg hn] at hj hpublished ⊢
        rw [hj]
        exact hpublished
    · rw [if_neg hi, ← h.published i]
      split
      · exact List.getElem?_set_ne hi
      · rfl

end Feed

/-! ## commands and the history they make -/

/-- What a command does to the frames of a device, told from its answer. -/
def Command.frames (ss : Sessions) : Command → Answer → FrameHistory
  | .submitFrame index inputs, .ok => [(index.toNat, .submitted inputs)]
  | .onSession n .poll, _ => ((ss.find? n).map fun x => (x.index, FrameEvent.polled)).toList
  | _, _ => []

section Commands

variable [Arithmetic] {n : Nat} {past : FrameHistory}

/-- A poll of a feed publishes the frame staged for its device. -/
theorem Session.serve_poll {x x' : Session} {f f' : Feed} {a : Answer} (h : x.serve f .poll = (a, x', f')) :
    f' = f.publish x.index := by
  have hpoll : x.serve f .poll = (.ok, x, f.publish x.index) := rfl
  rw [hpoll] at h
  cases h
  rfl

theorem Host.Effect.holds {h h' : Host Feed} {ss ss' : Sessions} {c : Command} {a : Answer}
    (he : h.Effect ss c a h' ss') (hf : h.source.Holds n past) : h'.source.Holds n (past ++ c.frames ss a) := by
  have hstay : ∀ c a, Command.frames ss c a = [] → h.source.Holds n (past ++ Command.frames ss c a) := by
    intro c a hnone
    rw [hnone, List.append_nil]
    exact hf
  cases he with
  | @question c hc a => exact hstay c a (by cases c <;> first | rfl | cases hc)
  | opened | notOpened | closed => exact hstay _ _ rfl
  | @submitted index inputs source hs => exact hf.submit (Option.some.inj hs)
  | @notSubmitted index inputs a ha => exact hstay _ a (by cases a <;> first | rfl | cases ha)
  | @served m c x x' a source hx hs =>
    by_cases hc : c = .poll
    · subst hc
      simp only [Command.frames, hx, Option.map_some, Option.toList_some, Session.serve_poll hs]
      exact hf.publish x.index
    · simp only [Session.serve_source hs hc]
      exact hstay _ a (by cases c <;> first | rfl | exact absurd rfl hc)
  | @unknown c m hc hm =>
    refine hstay c _ ?_
    cases c with
    | onSession m' c =>
      cases hc
      cases c <;> simp [Command.frames, hm]
    | _ => rfl

end Commands

/-! ## runs -/

namespace Server

variable [Arithmetic]

/-- What a call does to the frames of a device. -/
def frames (s : Server Feed) : ServerCall → FrameHistory
  | .command k c => (((s.command k c).1.map (c.frames (s.sessions k))).getD [])
  | .close _ => []

/-- The frames of a run. -/
def frameHistory (s : Server Feed) : List ServerCall → FrameHistory
  | [] => []
  | c :: rest => s.frames c ++ (s.perform c).frameHistory rest

/-- A server of `n` devices after all that happened. -/
structure Shows (i : Interface) (n : Nat) (past : FrameHistory) (s : Server Feed) : Prop where
  interface : s.host.interface = i
  feed : s.host.source.Holds n past
  /-- A session keeps the filter and the device it was opened with. -/
  sessions : ∀ k, (s.sessions k).All fun x => x.filter = i.filter ∧ x.index < n

variable {i : Interface} {n : Nat} {past : FrameHistory} {s : Server Feed}

omit [Arithmetic] in
theorem shows_start : (start i (Feed.ofCount n)).Shows i n [] :=
  ⟨rfl, Feed.holds_ofCount, fun _ _ hp => absurd hp List.not_mem_nil⟩

theorem Shows.effect (h : s.Shows i n past) {k : Nat} {c : Command} {a : Answer} {host : Host Feed} {ss : Sessions}
    (he : s.host.Effect (s.sessions k) c a host ss) :
    Shows i n (past ++ c.frames (s.sessions k) a) ({ s with host := host }.setConnection k (.live ss)) := by
  refine ⟨he.interface.trans h.interface, he.holds h.feed, fun j => ?_⟩
  rw [sessions_setConnection]
  split
  · refine he.all ?_ ?_ (h.sessions k)
    · intro id x hx
      rw [h.interface, h.feed.deviceCount] at hx
      obtain ⟨index, -, hindex, rfl⟩ := Interface.create_ok hx
      exact ⟨rfl, hindex⟩
    · intro x n? x' hx hc
      cases hc <;> exact hx
  · exact h.sessions j

theorem Shows.perform (h : s.Shows i n past) (c : ServerCall) : (s.perform c).Shows i n (past ++ s.frames c) := by
  cases c with
  | command k c =>
    rcases s.command_cases k c with ⟨-, hc⟩ | ⟨a, host, ss, -, he, hc⟩
    · simp only [Server.perform, frames, hc, Option.map_none, Option.getD_none, List.append_nil]
      exact h
    · simp only [Server.perform, frames, hc, Option.map_some, Option.getD_some]
      exact h.effect he
  | close k =>
    simp only [frames, List.append_nil]
    refine ⟨h.interface, h.feed, fun j => ?_⟩
    have hclosed : (s.perform (.close k)).sessions j = if j = k then [] else s.sessions j :=
      s.sessions_setConnection k .ended j
    rw [hclosed]
    split
    · exact fun _ hp => absurd hp List.not_mem_nil
    · exact h.sessions j

theorem Shows.run (h : s.Shows i n past) (calls : List ServerCall) :
    (s.run calls).Shows i n (past ++ s.frameHistory calls) := by
  induction calls generalizing s past with
  | nil =>
    rw [frameHistory, List.append_nil]
    exact h
  | cons c rest ih =>
    rw [frameHistory, ← List.append_assoc]
    exact ih (h.perform c)

omit [Arithmetic] in
theorem Shows.snapshot (h : s.Shows i n past) {k : Nat} {m : UInt64} {x : Session}
    (hx : (s.sessions k).find? m = some x) :
    SnapshotSource.snapshot s.host.source x.index =
      FrameEvent.lastFrame (FrameEvent.beforePoll (eventsOf past x.index)) := by
  have hindex : x.index < n := ((h.sessions k).find? hx).2
  have hinputs : SnapshotSource.inputs s.host.source x.index =
      some (FrameEvent.lastFrame (FrameEvent.beforePoll (eventsOf past x.index))) := by
    have hpublished := h.feed.published x.index
    rwa [if_pos hindex] at hpublished
  simp [SnapshotSource.snapshot, hinputs]

end Server

/-- Reading succeeds exactly with the format in effect and its size, and gives the rendering. -/
theorem Session.read_eq_ok {σ : Type} [SnapshotSource σ] [Arithmetic] {x : Session} {source : σ} {size : Nat}
    {bytes : List UInt8} :
    x.read source size = .ok bytes ↔ ∃ agreed, x.format = some agreed ∧ size = agreed.dataSize.toNat ∧
      render x.catalog agreed.mappings agreed.fixups (x.filter.apply (SnapshotSource.snapshot source x.index))
        (List.replicate size 0) = .ok bytes := by
  unfold read renderInto agreementFor
  cases x.format with
  | none => simp
  | some agreed =>
    by_cases hsize : size = agreed.dataSize.toNat
    · subst hsize
      simp only [List.length_replicate, ne_eq, not_true_eq_false, if_false, Option.some.injEq, exists_eq_left',
        true_and]
      generalize render x.catalog _ _ _ _ = r
      cases r <;> simp
    · simp [hsize]

namespace Server

variable [Arithmetic]

/-- Bytes are the answer where the connection has the session, and the session can be read. -/
theorem command_readState {σ : Type} [ServedSource σ] (s : Server σ) (k : Nat) (m size : UInt64)
    (bytes : List UInt8) :
    (s.command k (.onSession m (.readState size))).1 = some (.state bytes) ↔
      ∃ x, (s.sessions k).find? m = some x ∧ x.read s.host.source size.toNat = .ok bytes := by
  unfold command sessions
  cases s.connection k with
  | ended => simp [Connection.sessions, Sessions.find?]
  | live ss =>
    simp only [Connection.sessions, Host.serve, Host.onSession]
    cases ss.find? m with
    | none => simp [noSuchSession]
    | some x =>
      simp only [Session.serve]
      cases hread : x.read s.host.source size.toNat <;> simp [Served.answer, hread]

/-- After any interleaving of commands on a server whose devices are fed by clients, reading the state of a session
gives bytes exactly if the session has a format of that size, and they are its rendering, by its own catalog and
format, of the filtered frame that was last submitted for its device before the device was last polled. -/
theorem state_of_frames (i : Interface) (n : Nat) (calls : List ServerCall) (k : Nat) (m size : UInt64)
    (bytes : List UInt8) :
    let s := (start i (Feed.ofCount n)).run calls
    let h := (start i (Feed.ofCount n)).frameHistory calls
    (s.command k (.onSession m (.readState size))).1 = some (.state bytes) ↔
      ∃ x agreed, (s.sessions k).find? m = some x ∧ x.format = some agreed ∧ size.toNat = agreed.dataSize.toNat ∧
        render x.catalog agreed.mappings agreed.fixups
          (i.filter.apply (FrameEvent.lastFrame (FrameEvent.beforePoll (eventsOf h x.index))))
          (List.replicate size.toNat 0) = .ok bytes := by
  intro s h
  have hshows : s.Shows i n h := shows_start.run calls
  rw [command_readState]
  constructor
  · rintro ⟨x, hx, hread⟩
    obtain ⟨agreed, hformat, hsize, hrender⟩ := Session.read_eq_ok.1 hread
    rw [hshows.snapshot hx, ((hshows.sessions k).find? hx).1] at hrender
    exact ⟨x, agreed, hx, hformat, hsize, hrender⟩
  · rintro ⟨x, agreed, hx, hformat, hsize, hrender⟩
    rw [← hshows.snapshot hx, ← ((hshows.sessions k).find? hx).1] at hrender
    exact ⟨x, hx, Session.read_eq_ok.2 ⟨agreed, hformat, hsize, hrender⟩⟩

end Server
end GamepadPool
