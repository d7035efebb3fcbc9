import GamepadPool.Pattern.Mode
import GamepadPool.Text.Hex
/-! # Escapes in patterns
A backslash takes a meaning from a mark, or gives one to a letter. -/

namespace GamepadPool.Pattern

/-- What one place of a pattern stands for. -/
inductive Atom where
  | char (c : Char)
  /-- A character by the two digits of a byte. -/
  | byte (c : Char)
  /-- Any character of a line. -/
  | any
  /-- The begin or end of a line or of the text. -/
  | edge
  | wordEdge
  /-- Digits, blanks or word characters, or all but these. -/
  | shorthand (negated : Bool)
deriving DecidableEq, Repr

namespace Atom

/-- The character, if it stands for one. -/
def char? : Atom → Option Char
  | char c | byte c => some c
  | _ => none

/-- Whether it may stand on its own. A byte beyond ASCII is no text, nor is what matches one; words and
shorthands are known for ASCII only. -/
def isUsable (m : Mode) : Atom → Bool
  | char _ => m.admits
  | byte c => m.admits && (m.unicode || c.toNat < 128)
  | any => m.unicode
  | edge => true
  | wordEdge => !m.unicode
  | shorthand negated => !m.unicode && !negated

end Atom

/-- The number that so many hexadecimal digits stand for. -/
def readHex (m : Mode) : Nat → Nat → List Char → Option (Nat × List Char)
  | 0, n, s => some (n, s)
  | count + 1, n, s =>
    match m.skip s with
    | [] => none
    | c :: s => (Hex.value? c).bind fun d => readHex m count (n * 16 + d) s

/-- A character by its number; half a surrogate pair is none. -/
def readNumber (m : Mode) (count : Nat) (s : List Char) : Option (Char × List Char) :=
  (readHex m count 0 s).bind fun r => if r.1.isValidChar then some (.ofNat r.1, r.2) else none

/-- Reads an escape after its backslash. Character properties are not known, nor is anything referred back to. -/
def readEscape (m : Mode) : List Char → Option (Atom × List Char)
  | [] => none
  | c :: s =>
    if c = 'x' then (readNumber m 2 s).map fun r => (.byte r.1, r.2)
    else if c = 'u' then (readNumber m 4 s).map fun r => (.char r.1, r.2)
    else if c = 'U' then (readNumber m 8 s).map fun r => (.char r.1, r.2)
    else if ['d', 's', 'w'].contains c then some (.shorthand false, s)
    else if ['D', 'S', 'W'].contains c then some (.shorthand true, s)
    else if ['A', 'z'].contains c then some (.edge, s)
    else if ['b', 'B', '<', '>'].contains c then some (.wordEdge, s)
    else if c = 'a' then some (.char '\x07', s)
    else if c = 't' then some (.char '\t', s)
    else if c = 'n' then some (.char '\n', s)
    else if c = 'v' then some (.char '\x0b', s)
    else if c = 'f' then some (.char '\x0c', s)
    else if c = 'r' then some (.char '\r', s)
    else if c.toNat < 128 && !c.isAlphanum then some (.char c, s)
    else none

end GamepadPool.Pattern
