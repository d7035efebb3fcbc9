import GamepadPool.Text.Hex
import GamepadPool.Text.Unprintable
/-! # Quoted texts and lists in diagnostics -/

namespace GamepadPool.Quoted

/-- Hexadecimal digits without leading zeros. -/
def hex (n : Nat) : List Char := (Nat.toDigits 16 n)

def escape (c : Char) : List Char :=
  if c = '"' then ['\\', '"']
  else if c = '\\' then ['\\', '\\']
  else if c = '\n' then ['\\', 'n']
  else if c = '\r' then ['\\', 'r']
  else if c = '\t' then ['\\', 't']
  else if c.toNat = 0 then ['\\', '0']
  else if Unprintable.contains c then ['\\', 'u', '\x7b'] ++ hex c.toNat ++ ['\x7d']
  else [c]

/-- A text in quotes, its invisible characters spelled out. -/
def text (s : String) : String := "\"" ++ String.ofList (s.toList.flatMap escape) ++ "\""

/-- Items between brackets. -/
def list (items : List String) : String := "[" ++ ", ".intercalate items ++ "]"

/-- A name with one value in parentheses. -/
def call (name value : String) : String := name ++ "(" ++ value ++ ")"

/-- A name with named values in braces. -/
def record (name : String) (fields : List (String × String)) : String :=
  name ++ " \x7b " ++ ", ".intercalate (fields.map fun f => f.1 ++ ": " ++ f.2) ++ " \x7d"

end GamepadPool.Quoted
