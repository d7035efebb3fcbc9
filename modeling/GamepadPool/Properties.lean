import GamepadPool.BufferFormat.Agreement
/-! # Properties
Every axis has a range, a deadzone and a saturation of its own. A request addresses the device as a whole or
one object, by the offset it is mapped to or by its identifier. -/

namespace GamepadPool

inductive Property where
  | appData
  | autoCenter
  | axisMode
  | bufferSize
  | calibration
  | calibrationMode
  | cpoints
  | deadzone
  | forceGain
  | instanceName
  | productName
  | range
  | saturation
deriving DecidableEq, Repr, Inhabited

namespace Property

def all : List Property :=
  [appData, autoCenter, axisMode, bufferSize, calibration, calibrationMode, cpoints, deadzone, forceGain,
   instanceName, productName, range, saturation]

def name : Property → String
  | appData => "AppData"
  | autoCenter => "AutoCenter"
  | axisMode => "AxisMode"
  | bufferSize => "BufferSize"
  | calibration => "Calibration"
  | calibrationMode => "CalibrationMode"
  | cpoints => "CPoints"
  | deadzone => "DeadZone"
  | forceGain => "FfGain"
  | instanceName => "InstanceName"
  | productName => "ProductName"
  | range => "Range"
  | saturation => "Saturation"

instance : Named Property := ⟨all, name⟩

/-- Makes sense for the device as a whole only. -/
def concernsDevice : Property → Bool
  | autoCenter | axisMode | bufferSize | forceGain | instanceName | productName => true
  | _ => false

end Property

inductive PropertyAddress where
  | device
  /-- The object mapped there by the format in effect. -/
  | byOffset (offset : UInt32)
  /-- The first object the bits name. -/
  | byId (bits : UInt32)
deriving DecidableEq, Repr, Inhabited

inductive PropertyValue where
  | word (value : UInt32)
  | range (min max : Int32)
deriving DecidableEq, Repr, Inhabited

/-- A value as diagnostics show it. -/
def PropertyValue.describe : PropertyValue → String
  | word value => s!"Dword({value.toNat})"
  | range min max => s!"Range \x7b min: {min.toInt}, max: {max.toInt} \x7d"

/-- Why a property cannot be read or written. -/
inductive PropertyError where
  | deviceOnly (p : Property)
  | unsupported (p : Property)
  | objectOnly (p : Property)
  | nothingAtOffset (offset : UInt32)
  | nothingWithId (bits : UInt32)
  | missingObject (index : Nat)
  | unreadable (p : Property)
  | unwritable (p : Property)
  | notAnAxis (p : Property) (object : String)
  | wrongValue (p : Property) (value : PropertyValue)
  | tooLarge (value : UInt32)
deriving DecidableEq, Repr

def PropertyError.toDeviceError : PropertyError → DeviceError
  | deviceOnly p => .invalidParameter (p.name ++ " must address the whole device")
  | unsupported p => .unsupported p.name
  | objectOnly p => .unimplemented (p.name ++ " on the whole device")
  | nothingAtOffset offset => .objectNotFound s!"no object at offset {offset.toNat}"
  | nothingWithId bits => .objectNotFound ("no object with id " ++ Hex.word bits)
  | missingObject index => .objectNotFound s!"object {index}"
  | unreadable p => .unimplemented ("get " ++ p.name)
  | unwritable p => .unimplemented ("set " ++ p.name)
  | notAnAxis p object => .invalidParameter (p.name ++ " on non-axis object " ++ object)
  | wrongValue p value => .invalidParameter (p.name ++ " does not take " ++ value.describe)
  | tooLarge value => .invalidParameter s!"{value.toNat} exceeds {fullScale}"

namespace PropertyAddress

/-- The index of the object a target addresses, with the object. -/
def resolve (c : Catalog) (mappings : List Mapping) (p : Property) :
    PropertyAddress → Except PropertyError (Nat × DeviceObject)
  | device => .error (.objectOnly p)
  | byOffset offset =>
    match Agreement.objectAt? mappings offset with
    | none => .error (.nothingAtOffset offset)
    | some i =>
      match c.objects[i]? with
      | none => .error (.missingObject i)
      | some o => .ok (i, o)
  | byId bits =>
    match c.find? bits with
    | none => .error (.nothingWithId bits)
    | some i =>
      match c.objects[i]? with
      | none => .error (.missingObject i)
      | some o => .ok (i, o)

end PropertyAddress

namespace Catalog

/-- What a property of the whole device answers; only the axis mode, always absolute, has an answer. -/
def deviceWide (p : Property) (t : PropertyAddress) : Except PropertyError PropertyValue :=
  if t ≠ .device then .error (.deviceOnly p)
  else if p = .axisMode then .ok (.word 0)
  else .error (.unsupported p)

/-- The property of an object, where objects have it. -/
def propertyOf? (o : DeviceObject) : Property → Option PropertyValue
  | .deadzone => some (.word (.ofNat o.deadzone))
  | .saturation => some (.word (.ofNat o.saturation))
  | .range => some (.range o.rangeMin o.rangeMax)
  | _ => none

def getProperty (c : Catalog) (mappings : List Mapping) (p : Property) (t : PropertyAddress) :
    Except PropertyError PropertyValue :=
  if p.concernsDevice then deviceWide p t
  else
    match t.resolve c mappings p with
    | .error e => .error e
    | .ok (_, o) =>
      match propertyOf? o p with
      | none => .error (.unreadable p)
      | some v => if o.kind.isAxis then .ok v else .error (.notAnAxis p o.name)

/-- The object with a property changed; ten-thousandths above the whole are refused. -/
def withProperty (o : DeviceObject) (p : Property) (v : PropertyValue) : Except PropertyError DeviceObject :=
  match p, v with
  | .deadzone, .word raw =>
    if fullScale < raw.toNat then .error (.tooLarge raw) else .ok { o with deadzone := raw.toNat }
  | .saturation, .word raw =>
    if fullScale < raw.toNat then .error (.tooLarge raw) else .ok { o with saturation := raw.toNat }
  | .range, .range min max => .ok { o with rangeMin := min, rangeMax := max }
  | _, _ => .error (.wrongValue p v)

/-- Objects have three properties that can be written. -/
def isWritable : Property → Bool
  | .deadzone | .saturation | .range => true
  | _ => false

/-- A new axis mode is accepted and ignored. Bad addressing is reported before anything else. -/
def setProperty (c : Catalog) (mappings : List Mapping) (p : Property) (t : PropertyAddress)
    (v : PropertyValue) : Except PropertyError Catalog :=
  if p.concernsDevice then
    match deviceWide p t with
    | .error e => .error e
    | .ok _ => .ok c
  else
    match t.resolve c mappings p with
    | .error e => .error e
    | .ok (i, o) =>
      if !isWritable p then .error (.unwritable p)
      else if !o.kind.isAxis then .error (.notAnAxis p o.name)
      else
        match withProperty o p v with
        | .error e => .error e
        | .ok o => .ok (c.modify i fun _ => o)

end Catalog
end GamepadPool
