import GamepadPool.Proofs.Wire.Records
/-! # Commands read back
Every command is read from what it is written as, a frame as far as its axis values are. -/

namespace GamepadPool.Wire

open Json (wellFormed_record wellFormed_tagged columns?_record)

/-! ## commands on a session -/

theorem wellFormed_sessionCommand (n : UInt64) (c : SessionCommand) :
    (Json.record (("session", toJson n) :: sessionCommandFields c)).WellFormed :=
  wellFormed_record (by cases c <;> simp [sessionCommandFields])

theorem sessionCommand?_record (n : UInt64) (c : SessionCommand) :
    sessionCommand? (sessionCommandName c) (.record (("session", toJson n) :: sessionCommandFields c)) =
      some (n, c) := by
  have hfield : ∀ {α : Type} [Wire α] [Lawful α] (name : String) (_ : "session" ≠ name) (f : α → SessionCommand) (a : α),
      withField? name f (.record [("session", toJson n), (name, toJson a)]) = some (n, f a) := by
    intro α _ _ name hname f a
    rw [withField?, fields?_lawful hname]
    rfl
  have hbare : bare? c (.record [("session", toJson n)]) = some (n, c) := by
    rw [bare?, field?_record]
    rfl
  cases c with
  | capabilities | info | acquire | unacquire | poll => exact hbare
  | listObjects filter => exact hfield "filter" (by decide) .listObjects filter
  | setFormat format => exact hfield "format" (by decide) .setFormat format
  | setCooperation flags => exact hfield "flags" (by decide) .setCooperation flags
  | readState size => exact hfield "size" (by decide) .readState size
  | getProperty p t =>
    have hcolumns : (Json.record (("session", toJson n) :: sessionCommandFields (.getProperty p t))).columns?
        ["session", "property", "target"] = some [some (toJson n), some (toJson p), some (toJson t)] :=
      columns?_record [("session", _), ("property", _), ("target", _)] (by simp)
    rw [sessionCommandName, sessionCommand?, getProperty?, hcolumns]
    simp only [required_toJson]
  | setProperty p t v =>
    have hcolumns : (Json.record (("session", toJson n) :: sessionCommandFields (.setProperty p t v))).columns?
        ["session", "property", "target", "value"] =
          some [some (toJson n), some (toJson p), some (toJson t), some (toJson v)] :=
      columns?_record [("session", _), ("property", _), ("target", _), ("value", _)] (by simp)
    rw [sessionCommandName, sessionCommand?, setProperty?, hcolumns]
    simp only [required_toJson]

theorem ofJson?_onSession (n : UInt64) (c : SessionCommand) :
    ofJson? (toJson (Command.onSession n c)) = some (Command.onSession n c) := by
  have hread := congrArg (Option.map fun p => Command.onSession p.1 p.2) (sessionCommand?_record n c)
  cases c <;> exact hread

/-! ## every command -/

/-- A frame is read as far as its inputs are, every other command is read as it was. -/
theorem ofJson?_command (c : Command) :
    ofJson? (toJson c) =
      match c with
      | .submitFrame index inputs => (ofJson? (toJson inputs)).map (Command.submitFrame index)
      | c => some c := by
  cases c with
  | ping | listAssignments => rfl
  | listDevices cls flags =>
    have hfields := fields?_lawful (show "class" ≠ "flags" by decide) cls flags
    exact congrArg (Option.map fun p => Command.listDevices p.1 p.2) hfields
  | openSession id => exact congrArg (Option.map Command.openSession) (field?_record "guid" id)
  | closeSession n => exact congrArg (Option.map Command.closeSession) (field?_record "session" n)
  | onSession n c => exact ofJson?_onSession n c
  | submitFrame index inputs =>
    have hfields : fields? "index" "inputs" (.record [("index", toJson index), ("inputs", toJson inputs)]) =
        (ofJson? (toJson inputs)).map fun inputs : Snapshot => (index, inputs) :=
      (fields?_record (by decide) _ _).trans (by simp)
    have hread := congrArg (Option.map fun p : UInt64 × Snapshot => Command.submitFrame p.1 p.2) hfields
    rw [Option.map_map] at hread
    exact hread

theorem ofJson?_message (m : Message) :
    ofJson? (toJson m) = (ofJson? (toJson m.command)).map fun c : Command => Message.mk m.id c := by
  have hfields : fields? "id" "command" (toJson m) =
      (ofJson? (toJson m.command)).map fun c : Command => (m.id, c) :=
    (fields?_record (by decide) _ _).trans (by simp)
  simp only [ofJson?, hfields, Option.map_map, Function.comp_def]

end GamepadPool.Wire
