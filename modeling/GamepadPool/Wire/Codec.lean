import GamepadPool.Control
import GamepadPool.Json.Numeral
import GamepadPool.NameField
/-! # Reading and writing values as JSON
Records are written as objects and read from objects, unknown fields skipped, or from arrays of exactly their
fields. A kind without a value is written as its name and may be read as a field of that name holding null. -/

namespace GamepadPool

class Wire (α : Type) where
  toJson : α → Json
  ofJson? : Json → Option α

namespace Json

/-- The value of a field, which may be missing but must not be given twice. -/
def column? (fields : List (Option String × Json)) (name : String) : Option (Option Json) :=
  match fields.filter (·.1 == some name) with
  | [] => some none
  | [f] => some (some f.2)
  | _ => none

/-- The values of named fields, each where it is present. -/
def columns? (names : List String) : Json → Option (List (Option Json))
  | .object fields => if fields.any (·.1.isNone) then none else names.mapM (column? fields)
  | .array items => if items.length = names.length then some (items.map some) else none
  | _ => none

/-- The name of a kind, and its value where it has one. -/
def variant? : Json → Option (String × Option Json)
  | .string (some name) => some (name, none)
  | .object [(some name, x)] => some (name, some x)
  | _ => none

/-- The name of a kind that has no value. -/
def unit? (j : Json) : Option String :=
  match j.variant? with
  | some (name, none) => some name
  | some (name, some .null) => some name
  | _ => none

end Json

namespace Wire

variable {α : Type} [Wire α]

def required (x : Option Json) : Option α := x.bind ofJson?

/-! ## plain values -/

instance : Wire Bool where
  toJson := .bool
  ofJson?
    | .bool b => some b
    | _ => none

instance : Wire String where
  toJson := .text
  ofJson?
    | .string s => s
    | _ => none

/-- An integer between two bounds. -/
def bounded? (low high : Int) : Json → Option Int
  | .number n =>
    match n.int? with
    | some i => if low ≤ i ∧ i ≤ high then some i else none
    | none => none
  | _ => none

/-- A word without a sign, up to the largest of its width. -/
@[reducible] def unsigned {ω : Type} (largest : Nat) (toNat : ω → Nat) (ofNat : Nat → ω) : Wire ω where
  toJson n := .nat (toNat n)
  ofJson? j := (bounded? 0 largest j).map fun i => ofNat i.toNat

instance : Wire UInt8 := unsigned 0xFF UInt8.toNat UInt8.ofNat
instance : Wire UInt16 := unsigned 0xFFFF UInt16.toNat UInt16.ofNat
instance : Wire UInt32 := unsigned 0xFFFFFFFF UInt32.toNat UInt32.ofNat
instance : Wire UInt64 := unsigned 0xFFFFFFFFFFFFFFFF UInt64.toNat UInt64.ofNat

instance : Wire Int32 where
  toJson n := .int n.toInt
  ofJson? j := (bounded? (-0x80000000) 0x7FFFFFFF j).map Int32.ofInt

/-- In single precision; what is no finite number is written as null, and null is not read. -/
instance : Wire Number where
  toJson x :=
    match NumberText.ofSingle? x with
    | some n => .number n
    | none => .null
  ofJson?
    | .number n => n.single?
    | _ => none

/-! ## collections -/

instance : Wire (Option α) where
  toJson
    | some a => toJson a
    | none => .null
  ofJson?
    | .null => some none
    | j => (ofJson? j).map some

/-- A field that may be missing. -/
def optional (x : Option Json) : Option (Option α) :=
  match x with
  | none => some none
  | some j => ofJson? j

def listOf? : List Json → Option (List α)
  | [] => some []
  | j :: rest =>
    match (ofJson? j : Option α), (listOf? rest : Option (List α)) with
    | some a, some l => some (a :: l)
    | _, _ => none

instance : Wire (List α) where
  toJson l := .array (l.map toJson)
  ofJson?
    | .array items => listOf? items
    | _ => none

instance {n : Nat} : Wire (Vector α n) where
  toJson v := .array (v.toList.map toJson)
  ofJson?
    | .array items =>
      match (listOf? items : Option (List α)) with
      | some l => if h : l.length = n then some ⟨l.toArray, by simp [h]⟩ else none
      | none => none
    | _ => none

/-- A kind whose members have no values. -/
instance {α : Type} [Named α] : Wire α where
  toJson a := .text (Named.name a)
  ofJson? j :=
    match j.unit? with
    | some name => Named.ofName? name
    | none => none

end Wire
end GamepadPool
