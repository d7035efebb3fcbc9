import GamepadPool.Text.Hex
/-! # Strings of settings files
Basic strings have escapes, literal ones have none; either may stand between three quotes and span lines. -/

namespace GamepadPool.Toml

def isSpace (c : Char) : Bool := c == ' ' || c == '\t'

def skipSpaces (s : List Char) : List Char := s.dropWhile isSpace

/-- What may stand in a comment or on a line of a literal string: no control but the tab. -/
def isPlain (c : Char) : Bool := c == '\t' || (32 ≤ c.toNat && c.toNat != 127)

/-- The rest after a line end, if one is here. -/
def newline? : List Char → Option (List Char)
  | '\n' :: rest => some rest
  | '\r' :: '\n' :: rest => some rest
  | _ => none

/-- The number that exactly `count` hexadecimal digits stand for. -/
def hexNumber? : Nat → Nat → List Char → Option (Nat × List Char)
  | 0, n, s => some (n, s)
  | count + 1, n, c :: rest =>
    match Hex.value? c with
    | some d => hexNumber? count (n * 16 + d) rest
    | none => none
  | _ + 1, _, [] => none

/-- A character by its number; half a surrogate pair is none. -/
def character? (n : Nat) : Option Char := if n.isValidChar then some (Char.ofNat n) else none

/-- An escape after its backslash. -/
def escape? : List Char → Option (Char × List Char)
  | 'b' :: rest => some (Char.ofNat 8, rest)
  | 't' :: rest => some ('\t', rest)
  | 'n' :: rest => some ('\n', rest)
  | 'f' :: rest => some (Char.ofNat 12, rest)
  | 'r' :: rest => some ('\r', rest)
  | '"' :: rest => some ('"', rest)
  | '\\' :: rest => some ('\\', rest)
  | 'u' :: rest =>
    match hexNumber? 4 0 rest with
    | some (n, rest) => (character? n).map (·, rest)
    | none => none
  | 'U' :: rest =>
    match hexNumber? 8 0 rest with
    | some (n, rest) => (character? n).map (·, rest)
    | none => none
  | _ => none

def push (c : Char) : Option (List Char × List Char) → Option (List Char × List Char)
  | some (cs, rest) => some (c :: cs, rest)
  | none => none

/-- A basic string after its quote, with its rest. `fuel` is at least the length. -/
def basic? : Nat → List Char → Option (List Char × List Char)
  | 0, _ => none
  | _ + 1, [] => none
  | _ + 1, '"' :: rest => some ([], rest)
  | fuel + 1, '\\' :: rest =>
    match escape? rest with
    | some (c, rest) => push c (basic? fuel rest)
    | none => none
  | fuel + 1, c :: rest => if isPlain c then push c (basic? fuel rest) else none

def literal? : List Char → Option (List Char × List Char)
  | [] => none
  | '\'' :: rest => some ([], rest)
  | c :: rest => if isPlain c then push c (literal? rest) else none

/-- Blank lines and indentation after a backslash that ends its line. -/
def skipLines : Nat → List Char → List Char
  | 0, s => s
  | fuel + 1, s =>
    match newline? s with
    | some rest => skipLines fuel rest
    | none =>
      match s with
      | c :: rest => if isSpace c then skipLines fuel rest else s
      | [] => []

/-- Length of the run of a quote at the front. -/
def quotes (q : Char) (s : List Char) : Nat := (s.takeWhile (· == q)).length

/-- A run of quotes closes a string if it has three of them; up to two more belong to the string. -/
def closing? (q : Char) (s : List Char) : Option (List Char × List Char) :=
  let n := quotes q s
  if 3 ≤ n ∧ n ≤ 5 then some (List.replicate (n - 3) q, s.drop n) else none

/-- A basic string over several lines, after its quotes. -/
def multiBasic? : Nat → List Char → Option (List Char × List Char)
  | 0, _ => none
  | _ + 1, [] => none
  | fuel + 1, c :: rest =>
    if c = '"' then
      if quotes c (c :: rest) < 3 then push c (multiBasic? fuel rest) else closing? c (c :: rest)
    else if c = '\\' then
      match newline? (skipSpaces rest) with
      | some rest => multiBasic? fuel (skipLines rest.length rest)
      | none =>
        match escape? rest with
        | some (c, rest) => push c (multiBasic? fuel rest)
        | none => none
    else
      match newline? (c :: rest) with
      | some rest => push '\n' (multiBasic? fuel rest)
      | none => if isPlain c then push c (multiBasic? fuel rest) else none

/-- A literal string over several lines, after its quotes. -/
def multiLiteral? : Nat → List Char → Option (List Char × List Char)
  | 0, _ => none
  | _ + 1, [] => none
  | fuel + 1, c :: rest =>
    if c = '\'' then
      if quotes c (c :: rest) < 3 then push c (multiLiteral? fuel rest) else closing? c (c :: rest)
    else
      match newline? (c :: rest) with
      | some rest => push '\n' (multiLiteral? fuel rest)
      | none => if isPlain c then push c (multiLiteral? fuel rest) else none

/-- A line end right after the opening quotes does not count. -/
def firstLine (s : List Char) : List Char := (newline? s).getD s

/-- A string on one line. -/
def shortString? : List Char → Option (List Char × List Char)
  | '"' :: rest => basic? (rest.length + 1) rest
  | '\'' :: rest => literal? rest
  | _ => none

/-- Any string. -/
def string? : List Char → Option (List Char × List Char)
  | '"' :: '"' :: '"' :: rest => multiBasic? (rest.length + 1) (firstLine rest)
  | '\'' :: '\'' :: '\'' :: rest => multiLiteral? (rest.length + 1) (firstLine rest)
  | s => shortString? s

end GamepadPool.Toml
