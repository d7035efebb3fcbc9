import GamepadPool.Text.Hex
/-! # JSON values
The text of a number is kept as it was written, since whether it has a fraction or an exponent decides what it
may be read as. Objects keep their fields in order, repeated names included. -/

namespace GamepadPool

/-- The sign written before an exponent. -/
inductive ExponentSign where
  | unmarked
  | plus
  | minus
deriving DecidableEq, Repr

/-- A number as it is written. -/
structure NumberText where
  negative : Bool
  whole : List Char
  fraction : Option (List Char)
  exponent : Option (ExponentSign × List Char)
deriving DecidableEq, Repr

inductive Json where
  | null
  | bool (b : Bool)
  | number (n : NumberText)
  /-- `none` for a text with half a surrogate pair, which no string holds. -/
  | string (text : Option String)
  | array (items : List Json)
  | object (fields : List (Option String × Json))
deriving Repr

namespace Json

instance : Inhabited Json := ⟨null⟩

def text (s : String) : Json := .string (some s)

/-- Decimal digits. -/
def nat (n : Nat) : Json := .number ⟨false, Nat.toDigits 10 n, none, none⟩

def int (n : Int) : Json := .number ⟨decide (n < 0), Nat.toDigits 10 n.natAbs, none, none⟩

/-- An object whose fields all have names. -/
def record (fields : List (String × Json)) : Json := .object (fields.map fun f => (some f.1, f.2))

/-- A value under the name of its kind. -/
def tagged (name : String) (value : Json) : Json := record [(name, value)]

end Json
end GamepadPool
