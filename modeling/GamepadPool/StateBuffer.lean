import GamepadPool.BufferFormat.Agreement
import GamepadPool.Snapshot
/-! # Rendering a snapshot
The buffer is cleared, every mapping writes its object's value in order, and the fixups are written last. -/

namespace GamepadPool

/-! ## axis values -/

/-- The distance from the centre is measured in half-ranges. From `saturation` on the value is pinned to the
nearer edge; up to `deadzone` it is centred. -/
def respond [Arithmetic] (value deadzone saturation : Number) : Number :=
  let r := Arithmetic.state
  let distance := r.mul (r.sub value .half).abs (.rat 2)
  if saturation.le distance then (if Number.half.lt value then .one else .zero)
  else if distance.le deadzone then .half
  else value

/-- To the nearest integer, a half going away from zero. -/
def roundAway (q : Rat) : Int := if q < 0 then -(-q + 1 / 2).floor else (q + 1 / 2).floor

/-- The nearest word: what lies beyond is held at the limits, and what is no number is zero. -/
def saturate : Number → Int32
  | .rat q => .ofInt (max (-2147483648) (min 2147483647 (roundAway q)))
  | .infinite true => .ofInt (-2147483648)
  | .infinite false => 2147483647
  | .negZero | .nan => 0

/-- Takes `[0, 1]` to the range; an inverted range turns the direction round. -/
def spread [Arithmetic] (value : Number) (min max : Int32) : Int32 :=
  let r := Arithmetic.state
  let low := Number.ofInt min.toInt
  let high := Number.ofInt max.toInt
  saturate (r.add low (r.mul value (r.sub high low)))

/-- A fraction given in ten-thousandths. -/
def fractionOf [Arithmetic] (raw : Nat) : Number := Arithmetic.state (mkRat raw fullScale)

/-- The word an axis object writes for a value. -/
def axisWord [Arithmetic] (o : DeviceObject) (value : Number) : Int32 :=
  spread (respond value (fractionOf o.deadzone) (fractionOf o.saturation)) o.rangeMin o.rangeMax

/-- Midway between the ends of the range, toward zero. -/
def midpoint (o : DeviceObject) : Int32 := .ofInt ((o.rangeMin.toInt + o.rangeMax.toInt).tdiv 2)

/-! ## bytes -/

/-- The four bytes of a word, the least significant first. -/
def wordBytes (w : UInt32) : List UInt8 :=
  [w.toUInt8, (w >>> 8).toUInt8, (w >>> 16).toUInt8, (w >>> 24).toUInt8]

def pressed : UInt8 := 0x80

/-- What an object writes for a snapshot; an object that reads nothing rests. -/
def objectBytes [Arithmetic] (o : DeviceObject) (s : Snapshot) : List UInt8 :=
  match o.kind, o.control with
  | .collection, _ => []
  | cls, none =>
    if cls.isAxis then wordBytes (midpoint o).toUInt32
    else if cls.isButton then [0]
    else []
  | _, some (.axis a) => wordBytes (axisWord o (s.axis a)).toUInt32
  | _, some (.button b) => [if s.button b then pressed else 0]
  | _, some .hat => wordBytes s.hat.toPov

/-- How a format and a buffer can disagree. -/
inductive RenderError where
  | missingObject (index : Nat)
  | overrun (start stop size : Nat)
deriving DecidableEq, Repr

def RenderError.message : RenderError → String
  | missingObject index => s!"mapping refers to missing object {index}"
  | overrun start stop size => s!"state write at {start}..{stop} overruns {size} byte buffer"

/-- Puts bytes at an offset. -/
def writeAt (buffer : List UInt8) (offset : Nat) (bytes : List UInt8) : List UInt8 :=
  buffer.take offset ++ bytes ++ buffer.drop (offset + bytes.length)

/-- Puts bytes at an offset, if they fit. Nothing to write always fits. -/
def write (buffer : List UInt8) (offset : Nat) (bytes : List UInt8) : Except RenderError (List UInt8) :=
  if bytes.isEmpty then .ok buffer
  else if buffer.length < offset + bytes.length then
    .error (.overrun offset (offset + bytes.length) buffer.length)
  else .ok (writeAt buffer offset bytes)

def writeMappings [Arithmetic] (objects : List DeviceObject) (s : Snapshot) (buffer : List UInt8) :
    List Mapping → Except RenderError (List UInt8)
  | [] => .ok buffer
  | m :: rest =>
    match objects[m.object]? with
    | none => .error (.missingObject m.object)
    | some o =>
      match write buffer m.offset.toNat (objectBytes o s) with
      | .ok buffer => writeMappings objects s buffer rest
      | .error e => .error e

def writeFixups (buffer : List UInt8) : List Fixup → Except RenderError (List UInt8)
  | [] => .ok buffer
  | x :: rest =>
    match write buffer x.offset.toNat (wordBytes x.value) with
    | .ok buffer => writeFixups buffer rest
    | .error e => .error e

/-- The state of a device in a buffer, whatever the buffer held before. -/
def render [Arithmetic] (c : Catalog) (mappings : List Mapping) (fixups : List Fixup) (s : Snapshot)
    (buffer : List UInt8) : Except RenderError (List UInt8) :=
  match writeMappings c.objects s (List.replicate buffer.length 0) mappings with
  | .ok buffer => writeFixups buffer fixups
  | .error e => .error e

end GamepadPool
