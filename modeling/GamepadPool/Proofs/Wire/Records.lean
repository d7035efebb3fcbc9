import GamepadPool.Proofs.Wire.Codec
import GamepadPool.Wire.Message
/-! # Device values and answers read back
Every record, every kind of value and every answer that crosses the wire is lawful, whatever names, numbers and texts
it carries. -/

namespace GamepadPool.Wire

open Json (wellFormed_record wellFormed_tagged columns?_record)

/-! ## kinds that go by a name -/

instance : LawfulNamed Charset := ⟨fun c => by cases c <;> rfl⟩

instance : LawfulNamed DeviceFamily := ⟨fun f => by cases f <;> rfl⟩

instance : LawfulNamed Usage := ⟨fun u => by cases u <;> rfl⟩

instance : LawfulNamed Property := ⟨fun p => by cases p <;> rfl⟩

instance : LawfulNamed Profile := ⟨fun p => by cases p <;> rfl⟩

instance : LawfulNamed Hat := ⟨fun h => by cases h <;> rfl⟩

/-- A name is never null. -/
instance {α : Type} [Named α] [LawfulNamed α] : Lawful (Option α) where
  wellFormed
    | none => .null
    | some a => wellFormed a
  ofJson?_toJson
    | none => rfl
    | some a => congrArg (Option.map some) (ofJson?_toJson a)

theorem optional_toJson {α : Type} [Wire α] [Lawful (Option α)] (a : Option α) : optional (some (toJson a)) = some a :=
  ofJson?_toJson a

/-! ## records -/

theorem field?_record {α : Type} [Wire α] [Lawful α] (name : String) (a : α) :
    field? name (.record [(name, toJson a)]) = some a := by
  have hcolumns := columns?_record [(name, toJson a)] (by simp)
  simp only [List.map] at hcolumns
  simp only [field?, hcolumns, required_toJson]

theorem fields?_record {α β : Type} [Wire α] [Wire β] {first second : String} (h : first ≠ second) (x y : Json) :
    (fields? first second (.record [(first, x), (second, y)]) : Option (α × β)) =
      (ofJson? x).bind fun a => (ofJson? y).map fun b => (a, b) := by
  have hcolumns := columns?_record [(first, x), (second, y)] (by simp [h])
  simp only [List.map] at hcolumns
  simp only [fields?, hcolumns, required, Option.bind_some]
  cases (ofJson? x : Option α) <;> cases (ofJson? y : Option β) <;> rfl

theorem fields?_lawful {α β : Type} [Wire α] [Wire β] [Lawful α] [Lawful β] {first second : String}
    (h : first ≠ second) (a : α) (b : β) :
    fields? first second (.record [(first, toJson a), (second, toJson b)]) = some (a, b) :=
  (fields?_record h _ _).trans (by simp)

instance : Lawful NameField where
  wellFormed n := wellFormed_record (by simp)
  ofJson?_toJson n := by
    have hcolumns : (toJson n).columns? ["charset", "bytes"] =
        some [some (toJson n.charset), some (toJson n.bytes)] :=
      columns?_record [("charset", _), ("bytes", _)] (by simp)
    simp only [ofJson?, hcolumns, required_toJson]

instance : Lawful DeviceId where
  wellFormed
    | .keyboard => .string _
    | .mouse => .string _
    | .virtual index => wellFormed_tagged _ (wellFormed index)
  ofJson?_toJson
    | .keyboard => rfl
    | .mouse => rfl
    | .virtual index => congrArg (Option.map DeviceId.virtual) (ofJson?_toJson index)

instance : Lawful DeviceInfo where
  wellFormed d := wellFormed_record (by simp)
  ofJson?_toJson d := by
    have hcolumns : (toJson d).columns? ["instance", "product", "dev_type", "instance_name", "product_name"] =
        some [some (toJson d.instanceId), some (toJson d.productId), some (toJson d.deviceType),
          some (toJson d.instanceName), some (toJson d.productName)] :=
      columns?_record [("instance", _), ("product", _), ("dev_type", _), ("instance_name", _),
        ("product_name", _)] (by simp)
    simp only [ofJson?, hcolumns, required_toJson]

instance : Lawful Capabilities where
  wellFormed c := wellFormed_record (by simp)
  ofJson?_toJson c := by
    have hcolumns : (toJson c).columns? ["flags", "dev_type", "axes", "buttons", "povs"] =
        some [some (toJson c.flags), some (toJson c.deviceType), some (toJson c.axes), some (toJson c.buttons),
          some (toJson c.povs)] :=
      columns?_record [("flags", _), ("dev_type", _), ("axes", _), ("buttons", _), ("povs", _)] (by simp)
    simp only [ofJson?, hcolumns, required_toJson]

instance : Lawful ObjectInfo where
  wellFormed o := wellFormed_record (by simp)
  ofJson?_toJson o := by
    have hcolumns : (toJson o).columns? ["guid", "offset", "type_bits", "flags", "name"] =
        some [some (toJson o.usage), some (toJson o.offset), some (toJson o.typeBits), some (toJson o.flags),
          some (toJson o.name)] :=
      columns?_record [("guid", _), ("offset", _), ("type_bits", _), ("flags", _), ("name", _)] (by simp)
    simp only [ofJson?, hcolumns, required_toJson]

instance : Lawful BindingInfo where
  wellFormed b := wellFormed_record (by simp)
  ofJson?_toJson b := by
    have hcolumns : (toJson b).columns? ["virtual_id", "physical_id", "name", "profile"] =
        some [some (toJson b.virtualId), some (toJson b.physicalId), some (toJson b.name), some (toJson b.profile)] :=
      columns?_record [("virtual_id", _), ("physical_id", _), ("name", _), ("profile", _)] (by simp)
    simp only [ofJson?, hcolumns, required_toJson]

instance : Lawful ObjectRequest where
  wellFormed r := wellFormed_record (by simp)
  ofJson?_toJson r := by
    have hcolumns : (toJson r).columns? ["guid", "offset", "type_bits", "flags"] =
        some [some (toJson r.usage), some (toJson r.offset), some (toJson r.typeBits), some (toJson r.flags)] :=
      columns?_record [("guid", _), ("offset", _), ("type_bits", _), ("flags", _)] (by simp)
    simp only [ofJson?, hcolumns, required_toJson, optional_toJson]

instance : Lawful BufferFormat where
  wellFormed f := wellFormed_record (by simp)
  ofJson?_toJson f := by
    have hcolumns : (toJson f).columns? ["flags", "data_size", "objects"] =
        some [some (toJson f.flags), some (toJson f.dataSize), some (toJson f.objects)] :=
      columns?_record [("flags", _), ("data_size", _), ("objects", _)] (by simp)
    simp only [ofJson?, hcolumns, required_toJson]

/-! ## kinds with values -/

instance : Lawful PropertyAddress where
  wellFormed
    | .device => .string _
    | .byOffset offset => wellFormed_tagged _ (wellFormed offset)
    | .byId bits => wellFormed_tagged _ (wellFormed bits)
  ofJson?_toJson
    | .device => rfl
    | .byOffset offset => congrArg (Option.map PropertyAddress.byOffset) (ofJson?_toJson offset)
    | .byId bits => congrArg (Option.map PropertyAddress.byId) (ofJson?_toJson bits)

instance : Lawful PropertyValue where
  wellFormed
    | .word value => wellFormed_tagged _ (wellFormed value)
    | .range min max => wellFormed_tagged _ (wellFormed_record (by simp))
  ofJson?_toJson
    | .word value => congrArg (Option.map PropertyValue.word) (ofJson?_toJson value)
    | .range min max => by
      have hvariant : (toJson (PropertyValue.range min max)).variant? =
        some ("Range", some (.record [("min", toJson min), ("max", toJson max)])) := rfl
      have hcolumns : (Json.record [("min", toJson min), ("max", toJson max)]).columns? ["min", "max"] =
        some [some (toJson min), some (toJson max)] := columns?_record [("min", _), ("max", _)] (by simp)
      simp only [ofJson?, hvariant, hcolumns, required_toJson]

instance : Lawful DeviceError where
  wellFormed
    | .invalidParameter d => wellFormed_tagged _ (wellFormed d)
    | .objectNotFound d => wellFormed_tagged _ (wellFormed d)
    | .unsupported d => wellFormed_tagged _ (wellFormed d)
    | .unimplemented d => wellFormed_tagged _ (wellFormed d)
    | .deviceNotRegistered d => wellFormed_tagged _ (wellFormed d)
    | .inputLost => .string _
  ofJson?_toJson
    | .invalidParameter _ => rfl
    | .objectNotFound _ => rfl
    | .unsupported _ => rfl
    | .unimplemented _ => rfl
    | .deviceNotRegistered _ => rfl
    | .inputLost => rfl

instance : Lawful Answer where
  wellFormed
    | .pong => .string _
    | .devices l => wellFormed_tagged _ (wellFormed l)
    | .deviceCreated s => wellFormed_tagged _ (wellFormed_record (by simp))
    | .deviceDestroyed => .string _
    | .capabilities c => wellFormed_tagged _ (wellFormed c)
    | .deviceInfo i => wellFormed_tagged _ (wellFormed i)
    | .objects l => wellFormed_tagged _ (wellFormed l)
    | .ok => .string _
    | .property v => wellFormed_tagged _ (wellFormed v)
    | .state bytes => wellFormed_tagged _ (wellFormed bytes)
    | .assignments l => wellFormed_tagged _ (wellFormed l)
    | .error e => wellFormed_tagged _ (wellFormed e)
    | .failure m => wellFormed_tagged _ (wellFormed_record (by simp))
  ofJson?_toJson
    | .pong => rfl
    | .devices l => congrArg (Option.map Answer.devices) (ofJson?_toJson l)
    | .deviceCreated s => congrArg (Option.map Answer.deviceCreated) (field?_record "session" s)
    | .deviceDestroyed => rfl
    | .capabilities c => congrArg (Option.map Answer.capabilities) (ofJson?_toJson c)
    | .deviceInfo i => congrArg (Option.map Answer.deviceInfo) (ofJson?_toJson i)
    | .objects l => congrArg (Option.map Answer.objects) (ofJson?_toJson l)
    | .ok => rfl
    | .property v => congrArg (Option.map Answer.property) (ofJson?_toJson v)
    | .state bytes => congrArg (Option.map Answer.state) (ofJson?_toJson bytes)
    | .assignments l => congrArg (Option.map Answer.assignments) (ofJson?_toJson l)
    | .error e => congrArg (Option.map Answer.error) (ofJson?_toJson e)
    | .failure m => congrArg (Option.map Answer.failure) (field?_record "message" m)

instance : Lawful Reply where
  wellFormed r := wellFormed_record (by simp)
  ofJson?_toJson r := by
    have hfields : fields? "id" "result" (toJson r) = some (r.id, r.answer) := fields?_lawful (by decide) _ _
    simp only [ofJson?, hfields, Option.map_some]

end GamepadPool.Wire
