import GamepadPool.BufferFormat.Agreement
import GamepadPool.Listing
import GamepadPool.Pool
import GamepadPool.Properties
import GamepadPool.Wire.Codec
/-! # Device values as JSON -/

namespace GamepadPool

namespace Wire

/-! ## inputs -/

instance : Wire Snapshot where
  toJson s := .record [("axes", toJson s.axes), ("buttons", toJson s.buttons), ("dpad", toJson s.hat)]
  ofJson? j :=
    match j.columns? ["axes", "buttons", "dpad"] with
    | some [axes, buttons, hat] =>
      match required axes, required buttons, required hat with
      | some axes, some buttons, some hat => some ⟨axes, buttons, hat⟩
      | _, _, _ => none
    | _ => none

/-! ## devices -/

instance : Wire DeviceId where
  toJson
    | .keyboard => .text "SysKeyboard"
    | .mouse => .text "SysMouse"
    | .virtual index => .tagged "Virtual" (toJson index)
  ofJson? j :=
    match j.variant? with
    | some ("Virtual", some x) => (ofJson? x).map .virtual
    | _ =>
      match j.unit? with
      | some "SysKeyboard" => some .keyboard
      | some "SysMouse" => some .mouse
      | _ => none

instance : Wire NameField where
  toJson n := .record [("charset", toJson n.charset), ("bytes", toJson n.bytes)]
  ofJson? j :=
    match j.columns? ["charset", "bytes"] with
    | some [charset, bytes] =>
      match required charset, required bytes with
      | some charset, some bytes => some ⟨charset, bytes⟩
      | _, _ => none
    | _ => none

instance : Wire DeviceInfo where
  toJson d :=
    .record [("instance", toJson d.instanceId), ("product", toJson d.productId),
      ("dev_type", toJson d.deviceType), ("instance_name", toJson d.instanceName),
      ("product_name", toJson d.productName)]
  ofJson? j :=
    match j.columns? ["instance", "product", "dev_type", "instance_name", "product_name"] with
    | some [i, p, t, n, m] =>
      match required i, required p, required t, required n, required m with
      | some i, some p, some t, some n, some m => some ⟨i, p, t, n, m⟩
      | _, _, _, _, _ => none
    | _ => none

instance : Wire Capabilities where
  toJson c :=
    .record [("flags", toJson c.flags), ("dev_type", toJson c.deviceType), ("axes", toJson c.axes),
      ("buttons", toJson c.buttons), ("povs", toJson c.povs)]
  ofJson? j :=
    match j.columns? ["flags", "dev_type", "axes", "buttons", "povs"] with
    | some [f, t, a, b, p] =>
      match required f, required t, required a, required b, required p with
      | some f, some t, some a, some b, some p => some ⟨f, t, a, b, p⟩
      | _, _, _, _, _ => none
    | _ => none

instance : Wire ObjectInfo where
  toJson o :=
    .record [("guid", toJson o.usage), ("offset", toJson o.offset), ("type_bits", toJson o.typeBits),
      ("flags", toJson o.flags), ("name", toJson o.name)]
  ofJson? j :=
    match j.columns? ["guid", "offset", "type_bits", "flags", "name"] with
    | some [u, o, t, f, n] =>
      match required u, required o, required t, required f, required n with
      | some u, some o, some t, some f, some n => some ⟨u, o, t, f, n⟩
      | _, _, _, _, _ => none
    | _ => none

instance : Wire BindingInfo where
  toJson a :=
    .record [("virtual_id", toJson a.virtualId), ("physical_id", toJson a.physicalId),
      ("name", toJson a.name), ("profile", toJson a.profile)]
  ofJson? j :=
    match j.columns? ["virtual_id", "physical_id", "name", "profile"] with
    | some [v, p, n, q] =>
      match required v, required p, required n, required q with
      | some v, some p, some n, some q => some ⟨v, p, n, q⟩
      | _, _, _, _ => none
    | _ => none

/-! ## data formats -/

/-- Without a usage the field may be missing. -/
instance : Wire ObjectRequest where
  toJson r :=
    .record [("guid", toJson r.usage), ("offset", toJson r.offset), ("type_bits", toJson r.typeBits),
      ("flags", toJson r.flags)]
  ofJson? j :=
    match j.columns? ["guid", "offset", "type_bits", "flags"] with
    | some [u, o, t, f] =>
      match optional u, required o, required t, required f with
      | some u, some o, some t, some f => some ⟨u, o, t, f⟩
      | _, _, _, _ => none
    | _ => none

instance : Wire BufferFormat where
  toJson f :=
    .record [("flags", toJson f.flags), ("data_size", toJson f.dataSize), ("objects", toJson f.objects)]
  ofJson? j :=
    match j.columns? ["flags", "data_size", "objects"] with
    | some [f, s, o] =>
      match required f, required s, required o with
      | some f, some s, some o => some ⟨f, s, o⟩
      | _, _, _ => none
    | _ => none

/-! ## properties and errors -/

instance : Wire PropertyAddress where
  toJson
    | .device => .text "Device"
    | .byOffset offset => .tagged "ByOffset" (toJson offset)
    | .byId bits => .tagged "ById" (toJson bits)
  ofJson? j :=
    match j.variant? with
    | some ("ByOffset", some x) => (ofJson? x).map .byOffset
    | some ("ById", some x) => (ofJson? x).map .byId
    | _ =>
      match j.unit? with
      | some "Device" => some .device
      | _ => none

instance : Wire PropertyValue where
  toJson
    | .word value => .tagged "Dword" (toJson value)
    | .range min max => .tagged "Range" (.record [("min", toJson min), ("max", toJson max)])
  ofJson? j :=
    match j.variant? with
    | some ("Dword", some x) => (ofJson? x).map .word
    | some ("Range", some x) =>
      match x.columns? ["min", "max"] with
      | some [min, max] =>
        match required min, required max with
        | some min, some max => some (.range min max)
        | _, _ => none
      | _ => none
    | _ => none

instance : Wire DeviceError where
  toJson
    | .invalidParameter d => .tagged "InvalidParam" (toJson d)
    | .objectNotFound d => .tagged "ObjectNotFound" (toJson d)
    | .unsupported d => .tagged "Unsupported" (toJson d)
    | .unimplemented d => .tagged "Unimplemented" (toJson d)
    | .deviceNotRegistered d => .tagged "DeviceNotRegistered" (toJson d)
    | .inputLost => .text "InputLost"
  ofJson? j :=
    match j.variant? with
    | some ("InvalidParam", some x) => (ofJson? x).map .invalidParameter
    | some ("ObjectNotFound", some x) => (ofJson? x).map .objectNotFound
    | some ("Unsupported", some x) => (ofJson? x).map .unsupported
    | some ("Unimplemented", some x) => (ofJson? x).map .unimplemented
    | some ("DeviceNotRegistered", some x) => (ofJson? x).map .deviceNotRegistered
    | _ =>
      match j.unit? with
      | some "InputLost" => some .inputLost
      | _ => none

end Wire
end GamepadPool
