import GamepadPool.Proofs.Json.Singles
import GamepadPool.Proofs.Wire.Commands
import GamepadPool.Proofs.Wire.Lines
/-! # Messages sent again
A message that is written and sent is the message that is read, unless an axis value of its frame is no finite number.
Such a frame can be read, since numbers beyond the range become infinite, but it is written with a null, which is not
read: its message gets no answer. -/

namespace GamepadPool

/-- A number that has a text. -/
def Number.isFinite : Number → Bool
  | rat _ | negZero => true
  | infinite _ | nan => false

/-- The axis values of a frame; no other command has any. -/
def Command.axes : Command → List Number
  | submitFrame _ inputs => inputs.axes.toList
  | _ => []

namespace Wire

open Json (wellFormed_record wellFormed_tagged columns?_record)

theorem wellFormed_number (x : Number) : (toJson x).WellFormed := by
  simp only [toJson]
  split
  · exact .number (NumberText.wellFormed_ofSingle? ‹_›)
  · exact .null

theorem ofJson?_notFinite {x : Number} (h : x.isFinite = false) : (ofJson? (toJson x) : Option Number) = none := by
  cases x with
  | rat | negZero => cases h
  | infinite | nan => rfl

/-! ## frames -/

theorem wellFormed_snapshot (s : Snapshot) : (toJson s).WellFormed := by
  have haxes : (toJson s.axes).WellFormed := .array (List.forall_mem_map.2 fun x _ => wellFormed_number x)
  exact wellFormed_record (by simp [haxes])

theorem ofJson?_snapshot (s : Snapshot) :
    ofJson? (toJson s) = (ofJson? (toJson s.axes)).map fun axes => { s with axes := axes } := by
  have hcolumns : (toJson s).columns? ["axes", "buttons", "dpad"] =
      some [some (toJson s.axes), some (toJson s.buttons), some (toJson s.hat)] :=
    columns?_record [("axes", _), ("buttons", _), ("dpad", _)] (by simp)
  generalize haxes : (ofJson? (toJson s.axes) : Option (Vector Number 6)) = axes
  have hrequired : required (some (toJson s.axes)) = axes := haxes
  simp only [ofJson?, hcolumns, required_toJson, hrequired]
  cases axes <;> rfl

theorem ofJson?_axes {axes : Vector Number 6}
    (h : ∀ x ∈ axes.toList, x.isFinite = true → ofJson? (toJson x) = some x) :
    ofJson? (toJson axes) = if axes.toList.all Number.isFinite then some axes else none := by
  split
  · rename_i hall
    rw [List.all_eq_true] at hall
    exact ofJson?_vector (listOf?_map fun x hx => h x hx (hall x hx))
  · rename_i hall
    rw [Bool.not_eq_true, List.all_eq_false] at hall
    obtain ⟨x, hx, hfinite⟩ := hall
    have hnone := listOf?_map_none hx (ofJson?_notFinite (eq_false_of_ne_true hfinite))
    simp only [ofJson?, toJson] at hnone ⊢
    rw [hnone]

/-! ## messages -/

theorem wellFormed_command (c : Command) : (toJson c).WellFormed := by
  cases c with
  | ping | listAssignments => exact .string _
  | listDevices | openSession | closeSession => exact wellFormed_tagged _ (wellFormed_record (by simp))
  | onSession n c => exact wellFormed_tagged _ (wellFormed_sessionCommand n c)
  | submitFrame index inputs =>
    exact wellFormed_tagged _ (wellFormed_record (by simp [wellFormed_snapshot]))

theorem wellFormed_message (m : Message) : (toJson m).WellFormed :=
  wellFormed_record (by simp [wellFormed_command])

theorem ofJson?_finiteMessage {m : Message}
    (h : ∀ x ∈ m.command.axes, x.isFinite = true → ofJson? (toJson x) = some x) :
    ofJson? (toJson m) = if m.command.axes.all Number.isFinite then some m else none := by
  obtain ⟨id, c⟩ := m
  rw [ofJson?_message, ofJson?_command]
  cases c with
  | submitFrame index inputs =>
    have haxes : (Command.submitFrame index inputs).axes = inputs.axes.toList := rfl
    dsimp only
    rw [ofJson?_snapshot, ofJson?_axes h, haxes]
    by_cases hall : inputs.axes.toList.all Number.isFinite = true
    · rw [if_pos hall, if_pos hall]
      rfl
    · rw [if_neg hall, if_neg hall]
      rfl
  | ping | listAssignments | listDevices | openSession | closeSession | onSession => rfl

theorem read?_message {m : Message} (h : ∀ x ∈ m.command.axes, x.isFinite = true → ofJson? (toJson x) = some x)
    (blanks : String) (hb : ∀ c ∈ blanks.toList, Json.isBlank c) :
    read? (write m ++ blanks) = if m.command.axes.all Number.isFinite then some m else none :=
  (read?_render (wellFormed_message m) blanks hb).trans (ofJson?_finiteMessage h)

end Wire

/-- A message that is written is read as it was and answered, if all its axis values are finite numbers; otherwise it is
not read at all and gets no answer. This rests on the texts of its finite axis values: they have to be read as the
values they show. -/
theorem Message.sent_iff_finite {m : Message}
    (h : ∀ x ∈ m.command.axes, x.isFinite = true → Wire.ofJson? (Wire.toJson x) = some x) :
    Wire.read? (Wire.write m) = (if m.command.axes.all Number.isFinite then some m else none) ∧
      ∀ {σ : Type} [ServedSource σ] [Arithmetic] (host : Host σ) (ss : Sessions),
        (host.answerLine ss (Wire.write m ++ "\n")).1.isSome = m.command.axes.all Number.isFinite := by
  have hread := Wire.read?_message h "" (by simp)
  rw [String.append_empty] at hread
  refine ⟨hread, fun host ss => ?_⟩
  rw [Host.answerLine, Wire.read?_message h "\n" Wire.isBlank_lineFeed]
  cases m.command.axes.all Number.isFinite <;> rfl

/-- A frame within the range, with a negative zero. -/
theorem Message.sent_frame :
    let axes := #v[.rat (3 / 4), .half, .zero, .one, .negZero, .rat (13421773 / 134217728)]
    let m : Message := ⟨"7", .submitFrame 1 ⟨axes, .replicate 14 true, .north⟩⟩
    Wire.read? (Wire.write m) = some m := by
  intro axes m
  exact (Message.sent_iff_finite (m := m) (by decide +kernel)).1

/-- A frame with an axis value beyond the range of singles is a message, but what it is written as is none. -/
theorem Message.unsendable_frame :
    let buttons := String.intercalate "," (List.replicate 14 "false")
    let text := "\x7b\"id\":\"1\",\"command\":\x7b\"SubmitInputs\":\x7b\"index\":0,\"inputs\":\x7b\"axes\":[1e39,0.5,0.5,0.5,0.0,0.0]," ++
      "\"buttons\":[" ++ buttons ++ "],\"dpad\":\"Neutral\"\x7d\x7d\x7d\x7d"
    ∃ m : Message, Wire.read? text = some m ∧ (Wire.read? (Wire.write m) : Option Message) = none := by
  intro buttons text
  let inputs : Snapshot := ⟨#v[.infinite false, .half, .half, .half, .zero, .zero], .replicate 14 false, .neutral⟩
  let m : Message := ⟨"1", .submitFrame 0 inputs⟩
  have hfinite : ∀ x ∈ m.command.axes, x.isFinite = true → Wire.ofJson? (Wire.toJson x) = some x := by decide +kernel
  have hunread := Wire.read?_message hfinite "" (by simp)
  rw [String.append_empty] at hunread
  exact ⟨m, by decide +kernel, hunread⟩

end GamepadPool
