import GamepadPool.Proofs.Server.Requests
/-! # Answers in order
Every request is answered, if at all, in the state the requests before it left. A line that is no message is no request:
it can as well be missing. -/

namespace GamepadPool

namespace Arrival

/-- The messages that come in on a connection. -/
def messagesOn (k : Nat) : Arrival → List Message
  | bytes j b => if j = k then (splitLines b).filterMap Message.ofLine? else []
  | close _ | parting _ => []

/-- The arrival without the lines of a connection that are no messages. -/
def messagesOnly (k : Nat) : Arrival → Arrival
  | bytes j b => bytes j (if j = k then ((splitLines b).filter fun line => (Message.ofLine? line).isSome).flatten else b)
  | a => a

/-- A connection stays open, and what comes in on it is text. -/
structure TextOn (k : Nat) (a : Arrival) : Prop where
  isOpen : a ≠ close k
  isText : ∀ b, a = bytes k b → ∃ text, b = utf8 text

variable {k : Nat} {a : Arrival}

theorem TextOn.texts {b : List UInt8} (h : TextOn k (.bytes k b)) :
    ∀ line ∈ splitLines b, ∃ text, decodeLine? line = some text := by
  obtain ⟨text, rfl⟩ := h.isText b rfl
  exact fun line hline => decodeLine?_of_mem_splitLines hline

theorem TextOn.ofArrival (h : a.TextOn k) :
    .close k ∉ Request.ofArrival a ∧ (Request.ofArrival a).filterMap (·.messageOn? k) = a.messagesOn k := by
  have hother : (∀ r ∈ Request.ofArrival a, r.connection? ≠ some k) → a.messagesOn k = [] →
      .close k ∉ Request.ofArrival a ∧ (Request.ofArrival a).filterMap (·.messageOn? k) = a.messagesOn k := by
    intro hrequests hnone
    refine ⟨fun hclose => hrequests _ hclose rfl, ?_⟩
    rw [hnone, List.filterMap_eq_nil_iff]
    exact fun r hr => Request.messageOn?_of_connection (hrequests r hr)
  cases a with
  | bytes j b =>
    by_cases hj : j = k
    · subst hj
      rw [Request.ofArrival, Request.ofLines_of_texts h.texts, messagesOn, if_pos rfl]
      exact ⟨by simp, by simp [List.filterMap_map, Request.messageOn?]⟩
    · refine hother (fun r hr => ?_) (if_neg hj)
      rw [Request.connection_ofLines r hr]
      exact fun hjk => hj (Option.some.inj hjk)
  | close j =>
    refine hother (fun r hr => ?_) rfl
    rw [List.mem_singleton.1 hr]
    exact fun hjk => h.isOpen (congrArg close (Option.some.inj hjk))
  | parting b =>
    refine hother (fun r hr => ?_) rfl
    rw [Request.connection_ofUnheard r hr]
    exact (Option.some_ne_none k).symm

theorem TextOn.ofArrival_messagesOnly (h : a.TextOn k) : Request.ofArrival (a.messagesOnly k) = Request.ofArrival a := by
  cases a with
  | bytes j b =>
    by_cases hj : j = k
    · subst hj
      have htexts := h.texts
      have hkept : ∀ line ∈ (splitLines b).filter fun line => (Message.ofLine? line).isSome,
          ∃ text, decodeLine? line = some text :=
        fun line hline => htexts line (List.mem_of_mem_filter hline)
      simp only [messagesOnly, if_true, Request.ofArrival, splitLines_filter, Request.ofLines_of_texts htexts,
        Request.ofLines_of_texts hkept]
      rw [List.filterMap_filter]
      congr 2
      funext line
      cases Message.ofLine? line <;> rfl
    · simp [messagesOnly, hj]
  | close | parting => rfl

end Arrival

namespace Server

variable {σ : Type} {s t : Server σ}

variable [ServedSource σ] [Arithmetic]

/-! ## what is written -/

def attend (s : Server σ) : List Arrival → List (Nat × String) × Server σ
  | [] => ([], s)
  | a :: rest => ((s.arrive a).1 ++ ((s.arrive a).2.attend rest).1, ((s.arrive a).2.attend rest).2)

/-- The lines written on a connection. -/
def written (s : Server σ) (k : Nat) (arrivals : List Arrival) : List String :=
  ((s.attend arrivals).1.filter (·.1 == k)).map (·.2)

/-- The answers to the messages of a connection, each with the message's identifier and the result of its command in
the state that the requests before it left. -/
def repliesTo (s : Server σ) (k : Nat) : List Request → List Reply
  | [] => []
  | r :: rest =>
    ((r.messageOn? k).map fun m => ⟨m.id, (s.host.serve (s.sessions k) m.command).1⟩).toList ++
      (s.take r).repliesTo k rest

theorem attend_alike (arrivals : List Arrival) (h : s.Alike t) :
    (s.attend arrivals).1 = (t.follow (arrivals.flatMap Request.ofArrival)).1.map (fun p => (p.1, Wire.write p.2)) ∧
      (s.attend arrivals).2.Alike (t.follow (arrivals.flatMap Request.ofArrival)).2 := by
  -- the two lists of connections differ in their order after the first arrival, so both servers vary
  induction arrivals generalizing s t with
  | nil => exact ⟨rfl, h⟩
  | cons a rest ih =>
    obtain ⟨hwritten, hnext⟩ := s.arrive_eq_follow a
    obtain ⟨hanswers, hfollow⟩ := h.follow (Request.ofArrival a)
    obtain ⟨hrest, hlast⟩ := ih (hnext.trans hfollow)
    rw [List.flatMap_cons, follow_append]
    exact ⟨by rw [attend, hwritten, hrest, hanswers, List.map_append], hlast⟩

/-! ## one connection -/

/-- A request on a connection is answered there, and every other one but its end leaves it alone. -/
theorem answer_live {k : Nat} {ss : Sessions} (hk : s.connection k = .live ss) {r : Request} (hr : r ≠ .close k) :
    ((s.answer? r).toList.filter (·.1 == k)).map (·.2) =
        ((r.messageOn? k).map fun m => ⟨m.id, (s.host.serve (s.sessions k) m.command).1⟩).toList ∧
      ∃ ss', (s.take r).connection k = .live ss' := by
  cases r with
  | message j m =>
    by_cases hj : j = k
    · subst hj
      simp [answer?, take, command_of_live hk, sessions_of_live hk, Request.messageOn?, connection_setConnection]
    · have hother : (s.take (.message j m)).connection k = s.connection k :=
        s.connection_perform (c := .command j m.command) hj
      refine ⟨?_, ss, hother.trans hk⟩
      rw [Request.messageOn?, if_neg hj]
      cases hcommand : (s.command j m.command).1 <;> simp [answer?, hcommand, hj]
  | close j =>
    have hj : k ≠ j := fun hkj => hr (congrArg Request.close hkj.symm)
    exact ⟨rfl, ss, ((connection_setConnection s j .ended k).trans (if_neg hj)).trans hk⟩
  | parting m => exact ⟨rfl, ss, hk⟩

/-- A connection is served as long as it is not closed. -/
theorem answers_live {k : Nat} {ss : Sessions} (hk : s.connection k = .live ss) {rs : List Request}
    (hopen : .close k ∉ rs) : ((s.follow rs).1.filter (·.1 == k)).map (·.2) = s.repliesTo k rs := by
  induction rs generalizing s ss with
  | nil => rfl
  | cons r rs ih =>
    rw [List.mem_cons, not_or] at hopen
    obtain ⟨hr, hrs⟩ := hopen
    obtain ⟨hanswer, ss', hnext⟩ := answer_live hk (Ne.symm hr)
    rw [follow, repliesTo, List.filter_append, List.map_append, hanswer, ih hnext hrs]

theorem ids_repliesTo (s : Server σ) (k : Nat) (rs : List Request) :
    (s.repliesTo k rs).map Reply.id = (rs.filterMap (·.messageOn? k)).map Message.id := by
  induction rs generalizing s with
  | nil => rfl
  | cons r rs ih =>
    rw [repliesTo, List.map_append, ih, List.filterMap_cons]
    cases r.messageOn? k <;> rfl

/-- On a connection that stays open and brings nothing but text, every message is answered by one line, in the order
of the messages, under the message's own identifier, with the result of its command in the state that the requests
before it left, whatever comes in on other connections in between. Lines that are no messages might as well be missing:
nothing written and no state differs without them. -/
theorem answered_in_order {k : Nat} {ss : Sessions} (hk : s.connection k = .live ss) {arrivals : List Arrival}
    (htext : ∀ a ∈ arrivals, a.TextOn k) :
    s.written k arrivals = (s.repliesTo k (arrivals.flatMap Request.ofArrival)).map Wire.write ∧
      (s.repliesTo k (arrivals.flatMap Request.ofArrival)).map Reply.id =
        (arrivals.flatMap (Arrival.messagesOn k)).map Message.id ∧
      (∀ line ∈ s.written k arrivals, '\n' ∉ line.toList) ∧
      (s.attend (arrivals.map (Arrival.messagesOnly k))).1 = (s.attend arrivals).1 ∧
      (s.attend (arrivals.map (Arrival.messagesOnly k))).2.Alike (s.attend arrivals).2 := by
  have hopen : .close k ∉ arrivals.flatMap Request.ofArrival := by
    rw [List.mem_flatMap]
    rintro ⟨a, ha, hclose⟩
    exact (htext a ha).ofArrival.1 hclose
  have hmessages : (arrivals.flatMap Request.ofArrival).filterMap (·.messageOn? k) =
      arrivals.flatMap (Arrival.messagesOn k) := by
    rw [List.filterMap_flatMap]
    exact List.flatMap_congr fun a ha => (htext a ha).ofArrival.2
  -- the server is asked the same with and without the other lines
  have hkept : (arrivals.map (Arrival.messagesOnly k)).flatMap Request.ofArrival =
      arrivals.flatMap Request.ofArrival := by
    rw [List.flatMap_map]
    exact List.flatMap_congr fun a ha => (htext a ha).ofArrival_messagesOnly
  obtain ⟨hwritten, hlast⟩ := attend_alike arrivals (.refl s)
  obtain ⟨hwritten', hlast'⟩ := attend_alike (arrivals.map (Arrival.messagesOnly k)) (.refl s)
  rw [hkept] at hwritten' hlast'
  have hreplies : s.written k arrivals = (s.repliesTo k (arrivals.flatMap Request.ofArrival)).map Wire.write := by
    rw [← answers_live hk hopen, written, hwritten, List.filter_map, List.map_map, List.map_map]
    rfl
  refine ⟨hreplies, ?_, ?_, hwritten'.trans hwritten.symm, hlast'.trans hlast.symm⟩
  · rw [ids_repliesTo, hmessages]
  · rw [hreplies]
    exact List.forall_mem_map.2 fun r _ => Wire.lineFeed_notMem_write r

end Server

/-- Sessions opened on one connection, with a line that is no message between them, while another connection ends and a
peer opens a session and vanishes. -/
theorem Server.answered_between_strangers :
    letI : Arithmetic := .binary
    let opening := fun id => Wire.write (Message.mk id (.openSession (.virtual 0)))
    let arrivals : List Arrival :=
      [.bytes 0 (utf8 (opening "a" ++ "\nnoise\n")), .bytes 1 [0xFF], .parting (utf8 (opening "b")),
        .bytes 0 (utf8 (opening "c"))]
    (Server.start ⟨.wide, .standard, .none⟩ (Feed.ofCount 1)).written 0 arrivals =
      [Wire.write (Reply.mk "a" (.deviceCreated 1)), Wire.write (Reply.mk "c" (.deviceCreated 3))] := by
  let : Arithmetic := .binary
  intro opening arrivals
  have htext : ∀ a ∈ arrivals, a.TextOn 0 := by
    have hbytes : ∀ text, (Arrival.bytes 0 (utf8 text)).TextOn 0 :=
      fun text => ⟨nofun, fun b hb => ⟨text, (Arrival.bytes.inj hb).2.symm⟩⟩
    exact List.forall_mem_cons.2 ⟨hbytes _, List.forall_mem_cons.2 ⟨⟨nofun, nofun⟩,
      List.forall_mem_cons.2 ⟨⟨nofun, nofun⟩, List.forall_mem_singleton.2 (hbytes _)⟩⟩⟩
  refine (Server.answered_in_order (s := .start ⟨.wide, .standard, .none⟩ (Feed.ofCount 1)) rfl htext).1.trans ?_
  decide +kernel

end GamepadPool
