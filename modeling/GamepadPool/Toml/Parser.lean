import GamepadPool.Toml.Scalar
import GamepadPool.Toml.Text
/-! # Reading settings files -/

namespace GamepadPool.Toml

/-- Levels of arrays, tables and dotted keys that may stand inside one another. -/
def depthLimit : Nat := 80

/-! ## keys -/

def isBare (c : Char) : Bool := c.isAlphanum || c == '-' || c == '_'

/-- One part of a key, bare or quoted. -/
def keyPart? (s : List Char) : Option (String × List Char) :=
  match s with
  | '"' :: _ => (shortString? s).map fun r => (String.ofList r.1, r.2)
  | '\'' :: _ => (shortString? s).map fun r => (String.ofList r.1, r.2)
  | s =>
    match s.takeWhile isBare with
    | [] => none
    | cs => some (String.ofList cs, s.dropWhile isBare)

/-- Parts between dots, with spaces around them; the last part comes second. -/
def keyParts? : Nat → List Char → Option (List String × String × List Char)
  | 0, _ => none
  | fuel + 1, s =>
    match keyPart? (skipSpaces s) with
    | none => none
    | some (k, rest) =>
      match skipSpaces rest with
      | '.' :: rest => (keyParts? fuel rest).map fun r => (k :: r.1, r.2.1, r.2.2)
      | rest => some ([], k, rest)

/-- A key of fewer parts than the limit. -/
def key? (s : List Char) : Option (List String × String × List Char) := keyParts? (depthLimit - 1) s

/-! ## blanks and comments -/

/-- The line end after a comment, or the end of the text. -/
def comment? (s : List Char) : Option (List Char) :=
  match s.dropWhile isPlain with
  | [] => some []
  | rest => (newline? rest).map fun _ => rest

/-- Spaces, line ends and comments. -/
def skipBlank : Nat → List Char → Option (List Char)
  | 0, s => some s
  | fuel + 1, s =>
    match skipSpaces s with
    | '#' :: rest =>
      match comment? rest with
      | some rest => skipBlank fuel rest
      | none => none
    | s =>
      match newline? s with
      | some rest => skipBlank fuel rest
      | none => some s

def skipAll (s : List Char) : Option (List Char) := skipBlank (s.length + 1) s

/-- The end of a line, after spaces and a comment. -/
def lineEnd? (s : List Char) : Option (List Char) :=
  match skipSpaces s with
  | [] => some []
  | '#' :: rest =>
    match comment? rest with
    | some [] => some []
    | some rest => newline? rest
    | none => none
  | s => newline? s

/-! ## values -/

mutual

/-- A value; `depth` is how many levels may still open. -/
def value? : Nat → Nat → List Char → Option (Toml × List Char)
  | 0, _, _ => none
  | fuel + 1, depth, s =>
    match s with
    | '"' :: _ => (string? s).map fun r => (.string (String.ofList r.1), r.2)
    | '\'' :: _ => (string? s).map fun r => (.string (String.ofList r.1), r.2)
    | '[' :: rest =>
      if depth = 0 then none
      else
        match skipAll rest with
        | some (']' :: rest) => some (.array [], rest)
        | some rest => (items? fuel (depth - 1) rest).map fun r => (.array r.1, r.2)
        | none => none
    | '\x7b' :: rest =>
      if depth = 0 then none
      else
        match skipSpaces rest with
        | '\x7d' :: rest => some (.inlineTable [], rest)
        | rest =>
          match entries? fuel (depth - 1) rest with
          | some (es, rest) => (inlineEntries es []).map fun es => (.inlineTable es, rest)
          | none => none
    | s => scalar? s

/-- Items up to the closing bracket; a comma may follow the last. -/
def items? : Nat → Nat → List Char → Option (List Toml × List Char)
  | 0, _, _ => none
  | fuel + 1, depth, s =>
    match value? fuel depth s with
    | none => none
    | some (v, rest) =>
      match skipAll rest with
      | some (']' :: rest) => some ([v], rest)
      | some (',' :: rest) =>
        match skipAll rest with
        | some (']' :: rest) => some ([v], rest)
        | some rest => (items? fuel depth rest).map fun r => (v :: r.1, r.2)
        | none => none
      | _ => none

/-- Entries up to the closing brace, on one line. -/
def entries? : Nat → Nat → List Char → Option (List (List String × String × Toml) × List Char)
  | 0, _, _ => none
  | fuel + 1, depth, s =>
    match key? s with
    | some (path, k, '=' :: rest) =>
      match value? fuel depth (skipSpaces rest) with
      | none => none
      | some (v, rest) =>
        match skipSpaces rest with
        | '\x7d' :: rest => some ([(path, k, v)], rest)
        | ',' :: rest => (entries? fuel depth rest).map fun r => ((path, k, v) :: r.1, r.2)
        | _ => none
    | _ => none

end

/-! ## documents -/

/-- A header's closing brackets end its line. -/
def headerEnd? (close : List Char) (s : List Char) : Option (List Char) :=
  if close.isPrefixOf s then lineEnd? (s.drop close.length) else none

/-- A statement and the lines after it. -/
def statement? (s : List Char) : Option (Statement × List Char) :=
  match s with
  | '[' :: '[' :: rest =>
    match key? rest with
    | some (path, k, rest) => (headerEnd? [']', ']'] rest).map (.itemHeader path k, ·)
    | none => none
  | '[' :: rest =>
    match key? rest with
    | some (path, k, rest) => (headerEnd? [']'] rest).map (.header path k, ·)
    | none => none
  | s =>
    match key? s with
    | some (path, k, '=' :: rest) =>
      let s := skipSpaces rest
      match value? (2 * s.length + 1) (depthLimit - 1) s with
      | some (v, rest) => (lineEnd? rest).map (.entry path k v, ·)
      | none => none
    | _ => none

def statements? : Nat → List Char → Option (List Statement)
  | 0, _ => none
  | fuel + 1, s =>
    match skipAll s with
    | none => none
    | some [] => some []
    | some s =>
      match statement? s with
      | some (x, rest) => (statements? fuel rest).map (x :: ·)
      | none => none

/-- A byte order mark may stand first. -/
def skipMark : List Char → List Char
  | c :: rest => if c.toNat = 0xFEFF then rest else c :: rest
  | [] => []

/-- The entries of a document. -/
def parse? (text : String) : Option Entries :=
  match statements? (text.length + 1) (skipMark text.toList) with
  | some l => assemble [] [] l
  | none => none

end GamepadPool.Toml
