import GamepadPool.Client
import GamepadPool.Proofs.Wire.Lines
/-! # Lines as a client reads them
A call reads one line off the front of what came in; what it leaves is there for the calls after it. Where only texts
come in, lines of text can stand for their bytes. -/

namespace GamepadPool

/-! ## bytes -/

theorem cutLine?_line {line : List UInt8} (h : 10 ∉ line) (rest : List UInt8) :
    cutLine? (line ++ 10 :: rest) = some (line ++ [10], rest) := by
  induction line with
  | nil => rfl
  | cons b line ih =>
    rw [List.mem_cons, not_or] at h
    simp [cutLine?, Ne.symm h.1, ih h.2]

theorem cutLine?_of_notMem {bytes : List UInt8} (h : 10 ∉ bytes) : cutLine? bytes = none := by
  induction bytes with
  | nil => rfl
  | cons b bytes ih =>
    rw [List.mem_cons, not_or] at h
    simp [cutLine?, Ne.symm h.1, ih h.2]

/-- Bytes without a line feed are no line; others start with one. -/
theorem cutLine?_cases (bytes : List UInt8) :
    (10 ∉ bytes ∧ cutLine? bytes = none) ∨
      ∃ line rest, 10 ∉ line ∧ (line ++ [10]) ++ rest = bytes ∧ cutLine? bytes = some (line ++ [10], rest) := by
  obtain ⟨lines, last, rfl, hlines, hlast⟩ := exists_frames 10 bytes
  cases lines with
  | nil => exact .inl ⟨hlast, cutLine?_of_notMem hlast⟩
  | cons line lines =>
    have hline := (List.forall_mem_cons.1 hlines).1
    refine .inr ⟨line, lines.flatMap (· ++ [10]) ++ last, hline, by simp, ?_⟩
    simpa using cutLine?_line hline (lines.flatMap (· ++ [10]) ++ last)

def Reading.bytes : Reading → List UInt8
  | unsent => []
  | line bytes => bytes

namespace Inbox

variable {b b' : Inbox} {isSent : Bool} {arriving : List UInt8} {hangsUp : Bool} {r : Reading}

/-- At most one line is taken off the front of what waits. -/
theorem readLine_eq_some {line : List UInt8} (h : b.readLine = some (line, b')) :
    line ++ b'.waiting = b.waiting ∧ 10 ∉ line.dropLast ∧ b'.isOpen = b.isOpen := by
  unfold readLine at h
  rcases cutLine?_cases b.waiting with ⟨hbytes, hcut⟩ | ⟨front, rest, hline, hbytes, hcut⟩ <;> rw [hcut] at h
  · dsimp only at h
    split at h <;> cases h
    exact ⟨List.append_nil _, fun hmem => hbytes ((List.dropLast_sublist _).mem hmem), rfl⟩
  · cases h
    exact ⟨hbytes, by rwa [List.dropLast_concat], rfl⟩

theorem exchange_eq_some (h : b.exchange isSent arriving hangsUp = some (r, b')) :
    r.bytes ++ b'.waiting = (b.receive arriving hangsUp).waiting ∧ 10 ∉ r.bytes.dropLast ∧
      b'.isOpen = (b.receive arriving hangsUp).isOpen := by
  unfold exchange at h
  split at h
  · obtain ⟨⟨line, b''⟩, hread, heq⟩ := Option.map_eq_some_iff.1 h
    cases heq
    exact readLine_eq_some hread
  · cases h
    exact ⟨rfl, List.not_mem_nil, rfl⟩

theorem receive_of_open (h : b.isOpen = true) : b.receive arriving hangsUp = ⟨b.waiting ++ arriving, !hangsUp⟩ :=
  if_pos h

theorem receive_of_closed (h : b.isOpen = false) : b.receive arriving hangsUp = b := if_neg (by simp [h])

end Inbox

/-! ## texts -/

theorem intercalate_frames {α : Type} (a : α) (lines : List (List α)) (last : List α) :
    [a].intercalate (lines ++ [last]) = lines.flatMap (· ++ [a]) ++ last := by
  induction lines with
  | nil => simp
  | cons line lines ih => simp [← ih, List.intercalate_cons_of_ne_nil]

namespace Link

/-- The connection as bytes. -/
def inbox (l : Link) : Inbox := ⟨l.waiting.flatMap utf8, l.isOpen⟩

/-- A text with a line feed at its end and nowhere else. -/
def IsLine (s : String) : Prop := ∃ text : String, '\n' ∉ text.toList ∧ s = text ++ "\n"

theorem append_lineFeed_ne_empty (text : String) : text ++ "\n" ≠ "" := fun h => by
  simpa using congrArg String.toList h

theorem linesOf_spec (text : String) :
    (∀ line ∈ linesOf text, IsLine line) ∧ String.join (linesOf text) = text ++ "\n" := by
  obtain ⟨lines, last, htext, hlines, hlast⟩ := exists_frames '\n' text.toList
  have hall : ∀ line ∈ lines ++ [last], '\n' ∉ line := by
    simpa [or_imp, forall_and] using ⟨hlines, hlast⟩
  have hsplit : text.toList.splitOn '\n' = lines ++ [last] := by
    rw [htext, ← intercalate_frames, List.splitOn_intercalate _ hall (by simp)]
  rw [linesOf, hsplit]
  constructor
  · refine List.forall_mem_map.2 fun line hline => ⟨String.ofList line, by simpa using hall line hline, ?_⟩
    rw [String.ofList_append]
  · refine String.toList_inj.1 ?_
    simp [htext, String.toList_join, List.flatMap_map]

/-- Of whole lines, the first one is read. -/
theorem readLine_lines {b : Inbox} {lines : List String} (hlines : ∀ line ∈ lines, IsLine line)
    (hbytes : b.waiting = lines.flatMap utf8) (hempty : lines = [] → b.isOpen = false) :
    b.readLine = some (lines.head?.elim [] utf8, { b with waiting := (lines.drop 1).flatMap utf8 }) := by
  rw [Inbox.readLine, hbytes]
  cases lines with
  | nil =>
    rw [hempty rfl]
    rfl
  | cons line lines =>
    obtain ⟨⟨text, htext, rfl⟩, -⟩ := List.forall_mem_cons.1 hlines
    have hline : utf8 (text ++ "\n") = utf8 text ++ [10] := utf8_append text "\n"
    rw [List.flatMap_cons, hline, List.append_assoc, List.singleton_append, cutLine?_line (lineFeed_notMem_utf8 htext),
      ← hline]
    rfl

theorem conclude_line {α : Type} (c : Call α) (id : String) {line : Option String} (h : ∀ l ∈ line, IsLine l) :
    c.conclude id (.line (line.elim [] utf8)) = c.outcome id line := by
  cases line with
  | none => rfl
  | some line =>
    obtain ⟨text, -, rfl⟩ := h line rfl
    obtain ⟨b, bytes, hbytes⟩ := List.exists_cons_of_ne_nil fun hnil =>
      append_lineFeed_ne_empty text (utf8_eq_nil.1 hnil)
    rw [Option.elim_some, hbytes, Call.conclude, ← hbytes, decodeLine?_utf8]
    exact List.cons_ne_nil b bytes

/-- A connection of texts is the same connection byte by byte, where a request is sent as long as the other side is
there. -/
theorem exchange_inbox {α : Type} {l : Link} (hl : ∀ line ∈ l.waiting, IsLine line) (reply : Option String)
    (c : Call α) (id : String) :
    ∃ r, l.inbox.exchange l.isOpen (reply.elim [] fun text => utf8 (text ++ "\n")) reply.isNone =
        some (r, (l.exchange reply).2.inbox) ∧
      c.conclude id r = (l.exchange reply).1.bind (c.outcome id) ∧
      ∀ line ∈ (l.exchange reply).2.waiting, IsLine line := by
  cases hopen : l.isOpen with
  | true =>
    -- what came in, and what comes in now
    have hlines : ∀ line ∈ l.waiting ++ (reply.map linesOf).getD [], IsLine line := by
      rw [List.forall_mem_append]
      refine ⟨hl, ?_⟩
      cases reply with
      | none => exact List.forall_mem_nil _
      | some text => exact (linesOf_spec text).1
    have hbytes : l.inbox.waiting ++ reply.elim [] (fun text => utf8 (text ++ "\n")) =
        (l.waiting ++ (reply.map linesOf).getD []).flatMap utf8 := by
      rw [List.flatMap_append, inbox]
      cases reply with
      | none => rfl
      | some text => exact congrArg _ ((congrArg utf8 (linesOf_spec text).2).symm.trans (utf8_join _))
    have hempty : l.waiting ++ (reply.map linesOf).getD [] = [] → (!reply.isNone) = false := by
      cases reply with
      | none => exact fun _ => rfl
      | some text =>
        intro hnil
        have hjoin := (linesOf_spec text).2
        rw [show linesOf text = [] from (List.append_eq_nil_iff.1 hnil).2] at hjoin
        exact absurd hjoin.symm (append_lineFeed_ne_empty text)
    rw [Inbox.exchange, if_pos rfl, Inbox.receive_of_open hopen, readLine_lines hlines hbytes hempty, exchange,
      if_pos hopen]
    refine ⟨_, ?_, conclude_line c id fun line hline => hlines line (List.mem_of_mem_head? hline),
      fun line hline => hlines line (List.mem_of_mem_drop hline)⟩
    rw [inbox, Option.not_isNone]
    rfl
  | false =>
    have hclosed : l.exchange reply = (.error .unsent, l) := if_neg (by simp [hopen])
    rw [Inbox.exchange, if_neg Bool.false_ne_true, Inbox.receive_of_closed hopen, hclosed]
    exact ⟨.unsent, rfl, rfl, hl⟩

end Link

end GamepadPool
