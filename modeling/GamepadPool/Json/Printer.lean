import GamepadPool.Json
/-! # Compact JSON text
No blanks; fields in their order; of the characters only quotes, backslashes and controls are escaped. -/

namespace GamepadPool

namespace Json

/-- A character inside a string. -/
def escape (c : Char) : List Char :=
  if c = '"' then ['\\', '"']
  else if c = '\\' then ['\\', '\\']
  else if c.toNat = 8 then ['\\', 'b']
  else if c.toNat = 9 then ['\\', 't']
  else if c.toNat = 10 then ['\\', 'n']
  else if c.toNat = 12 then ['\\', 'f']
  else if c.toNat = 13 then ['\\', 'r']
  else if c.toNat < 32 then ['\\', 'u'] ++ Hex.padded 4 c.toNat
  else [c]

/-- A string in quotes; what is no string shows as half a surrogate pair. -/
def quote : Option String → List Char
  | some s => '"' :: (s.toList.flatMap escape ++ ['"'])
  | none => '"' :: ['\\', 'u', 'd', '8', '0', '0', '"']

end Json

def ExponentSign.text : ExponentSign → List Char
  | unmarked => []
  | plus => ['+']
  | minus => ['-']

namespace NumberText

def fractionText : Option (List Char) → List Char
  | some ds => '.' :: ds
  | none => []

def exponentText : Option (ExponentSign × List Char) → List Char
  | some (sign, ds) => 'e' :: (sign.text ++ ds)
  | none => []

def text (n : NumberText) : List Char :=
  (if n.negative then ['-'] else []) ++ (n.whole ++ (fractionText n.fraction ++ exponentText n.exponent))

end NumberText

namespace Json

mutual

def print : Json → List Char
  | .null => ['n', 'u', 'l', 'l']
  | .bool true => ['t', 'r', 'u', 'e']
  | .bool false => ['f', 'a', 'l', 's', 'e']
  | .number n => n.text
  | .string s => quote s
  | .array [] => ['[', ']']
  | .array (x :: xs) => '[' :: (print x ++ printItems xs)
  | .object [] => ['\x7b', '\x7d']
  | .object ((k, x) :: rest) => '\x7b' :: (quote k ++ ':' :: (print x ++ printFields rest))

/-- The items after the first, and the closing bracket. -/
def printItems : List Json → List Char
  | [] => [']']
  | x :: xs => ',' :: (print x ++ printItems xs)

/-- The fields after the first, and the closing brace. -/
def printFields : List (Option String × Json) → List Char
  | [] => ['\x7d']
  | (k, x) :: rest => ',' :: (quote k ++ ':' :: (print x ++ printFields rest))

end

/-- The text of a value on one line. -/
def render (j : Json) : String := String.ofList j.print

end Json
end GamepadPool
