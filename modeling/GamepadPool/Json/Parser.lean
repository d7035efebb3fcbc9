import GamepadPool.Json
import GamepadPool.Text.Hex
import GamepadPool.Text.Encoding
/-! # Reading JSON
Strict: no comments, no trailing commas, no leading zeros, no raw control characters in strings. Blanks may
stand around every token. -/

namespace GamepadPool

/-! ## characters -/

namespace Json

def isBlank (c : Char) : Bool := c == ' ' || c == '\n' || c == '\t' || c == '\r'

def skipBlanks (s : List Char) : List Char := s.dropWhile isBlank

/-- The code unit that four digits name. -/
def codeUnit? (a b c d : Char) : Option UInt16 :=
  match Hex.value? a, Hex.value? b, Hex.value? c, Hex.value? d with
  | some a, some b, some c, some d => some (.ofNat (((a * 16 + b) * 16 + c) * 16 + d))
  | _, _, _, _ => none

/-! ## strings -/

/-- What stands between the quotes, piece by piece. -/
inductive Piece where
  | char (c : Char)
  | unit (u : UInt16)
deriving DecidableEq, Repr

/-- The character a one-letter escape names. -/
def shortEscape? (c : Char) : Option Char :=
  if c = '"' ∨ c = '\\' ∨ c = '/' then some c
  else if c = 'b' then some (Char.ofNat 8)
  else if c = 'f' then some (Char.ofNat 12)
  else if c = 'n' then some '\n'
  else if c = 'r' then some '\r'
  else if c = 't' then some '\t'
  else none

def push (p : Piece) : Option (List Piece × List Char) → Option (List Piece × List Char)
  | some (ps, rest) => some (p :: ps, rest)
  | none => none

/-- Pieces up to the closing quote, and what follows it. -/
def pieces? : List Char → Option (List Piece × List Char)
  | [] => none
  | '"' :: rest => some ([], rest)
  | '\\' :: 'u' :: a :: b :: c :: d :: rest =>
    match codeUnit? a b c d with
    | some u => push (.unit u) (pieces? rest)
    | none => none
  | '\\' :: c :: rest =>
    match shortEscape? c with
    | some e => push (.char e) (pieces? rest)
    | none => none
  | c :: rest => if c.toNat < 32 ∨ c = '\\' then none else push (.char c) (pieces? rest)

/-- The characters of the pieces; units that are surrogates must come in pairs. -/
def assemble? : List Piece → Option (List Char)
  | [] => some []
  | .char c :: rest => (assemble? rest).map (c :: ·)
  | .unit u :: .unit v :: rest =>
    if Utf16.isHigh u && Utf16.isLow v then (assemble? rest).map (Utf16.pair u v :: ·)
    else if Utf16.isHigh u || Utf16.isLow u then none
    else (assemble? (.unit v :: rest)).map (Char.ofNat u.toNat :: ·)
  | .unit u :: rest =>
    if Utf16.isHigh u || Utf16.isLow u then none else (assemble? rest).map (Char.ofNat u.toNat :: ·)

/-- A string after its opening quote. -/
def string? (s : List Char) : Option (Option String × List Char) :=
  match pieces? s with
  | some (ps, rest) => some ((assemble? ps).map String.ofList, rest)
  | none => none

/-! ## numbers -/

/-- The longest run of digits, and the rest. -/
def digits (s : List Char) : List Char × List Char := (s.takeWhile Char.isDigit, s.dropWhile Char.isDigit)

/-- A fraction has at least one digit. -/
def fraction? : List Char → Option (Option (List Char) × List Char)
  | '.' :: rest =>
    match digits rest with
    | ([], _) => none
    | (ds, rest) => some (some ds, rest)
  | s => some (none, s)

def exponentSign : List Char → ExponentSign × List Char
  | '+' :: rest => (.plus, rest)
  | '-' :: rest => (.minus, rest)
  | s => (.unmarked, s)

/-- An exponent after its mark has at least one digit. -/
def exponentDigits? (s : List Char) : Option (Option (ExponentSign × List Char) × List Char) :=
  match exponentSign s with
  | (sign, rest) =>
    match digits rest with
    | ([], _) => none
    | (ds, rest) => some (some (sign, ds), rest)

def exponent? : List Char → Option (Option (ExponentSign × List Char) × List Char)
  | 'e' :: rest => exponentDigits? rest
  | 'E' :: rest => exponentDigits? rest
  | s => some (none, s)

/-- A number after its sign: the whole part has a digit and no leading zero. -/
def unsigned? (negative : Bool) (s : List Char) : Option (NumberText × List Char) :=
  match digits s with
  | (whole, rest) =>
    if whole = [] ∨ (whole.head? = some '0' ∧ 1 < whole.length) then none
    else
      match fraction? rest with
      | none => none
      | some (fraction, rest) =>
        match exponent? rest with
        | none => none
        | some (exponent, rest) => some (⟨negative, whole, fraction, exponent⟩, rest)

def number? : List Char → Option (NumberText × List Char)
  | '-' :: rest => unsigned? true rest
  | s => unsigned? false s

/-! ## values -/

mutual

/-- A value and what follows it. -/
def value? : Nat → List Char → Option (Json × List Char)
  | 0, _ => none
  | fuel + 1, s =>
    match skipBlanks s with
    | 'n' :: 'u' :: 'l' :: 'l' :: rest => some (.null, rest)
    | 't' :: 'r' :: 'u' :: 'e' :: rest => some (.bool true, rest)
    | 'f' :: 'a' :: 'l' :: 's' :: 'e' :: rest => some (.bool false, rest)
    | '"' :: rest =>
      match string? rest with
      | some (s, rest) => some (.string s, rest)
      | none => none
    | '[' :: rest =>
      match skipBlanks rest with
      | ']' :: rest => some (.array [], rest)
      | rest =>
        match items? fuel rest with
        | some (xs, rest) => some (.array xs, rest)
        | none => none
    | '\x7b' :: rest =>
      match skipBlanks rest with
      | '\x7d' :: rest => some (.object [], rest)
      | rest =>
        match fields? fuel rest with
        | some (fs, rest) => some (.object fs, rest)
        | none => none
    | s =>
      match number? s with
      | some (n, rest) => some (.number n, rest)
      | none => none

/-- Items up to the closing bracket, at least one. -/
def items? : Nat → List Char → Option (List Json × List Char)
  | 0, _ => none
  | fuel + 1, s =>
    match value? fuel s with
    | none => none
    | some (x, rest) =>
      match skipBlanks rest with
      | ']' :: rest => some ([x], rest)
      | ',' :: rest =>
        match items? fuel rest with
        | some (xs, rest) => some (x :: xs, rest)
        | none => none
      | _ => none

/-- Fields up to the closing brace, at least one. -/
def fields? : Nat → List Char → Option (List (Option String × Json) × List Char)
  | 0, _ => none
  | fuel + 1, s =>
    match skipBlanks s with
    | '"' :: rest =>
      match string? rest with
      | none => none
      | some (k, rest) =>
        match skipBlanks rest with
        | ':' :: rest =>
          match value? fuel rest with
          | none => none
          | some (x, rest) =>
            match skipBlanks rest with
            | '\x7d' :: rest => some ([(k, x)], rest)
            | ',' :: rest =>
              match fields? fuel rest with
              | some (fs, rest) => some ((k, x) :: fs, rest)
              | none => none
            | _ => none
        | _ => none
    | _ => none

end

/-- A text that holds one value and nothing else. Each step of the reader takes a character, or is followed by
one that does, so twice the length is enough. -/
def parse? (s : List Char) : Option Json :=
  match value? (2 * s.length + 1) s with
  | some (j, rest) => if skipBlanks rest = [] then some j else none
  | none => none

end Json
end GamepadPool
