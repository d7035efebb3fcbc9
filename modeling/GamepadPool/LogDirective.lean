import GamepadPool.Pattern
import GamepadPool.Text.Encoding
/-! # Log levels
A log level is a list of directives between commas. A directive names a level, or a target with an optional span
and an optional level for it. What is no directive is ignored with a complaint.

Blanks around a directive do not count, but its parts are cut out of the text with them. After leading blanks each
part is therefore too far to the left, and where one would begin or end inside a character, nothing can be read. -/

/-! ## values of fields

A field is compared with a number where its value is written as one, and matched by a pattern elsewhere. -/

namespace GamepadPool.FieldValue

def dropSign : List Char → List Char
  | '+' :: s => s
  | '-' :: s => s
  | s => s

/-- An exponent, or nothing. -/
def isExponent : List Char → Bool
  | [] => true
  | c :: s => (c == 'e' || c == 'E') && !(dropSign s).isEmpty && (dropSign s).all Char.isDigit

/-- Digits with a point before, among or behind them, and an exponent. -/
def isDecimal (s : List Char) : Bool :=
  let whole := s.takeWhile Char.isDigit
  match s.dropWhile Char.isDigit with
  | '.' :: s => !(whole ++ s.takeWhile Char.isDigit).isEmpty && isExponent (s.dropWhile Char.isDigit)
  | s => !whole.isEmpty && isExponent s

/-- A number with its sign, those that are infinite and the one that is none included. -/
def isNumber (s : List Char) : Bool :=
  isDecimal (dropSign s)
    || ["inf", "infinity", "nan"].contains (String.ofList ((dropSign s).map Char.toLower))

def isWellFormed (s : List Char) : Bool := isNumber s || Pattern.isWellFormed s

end GamepadPool.FieldValue

/-! ## directives -/

namespace GamepadPool.LogDirective

/-- The names of levels, in lower case. -/
def levels : List String := ["off", "error", "warn", "info", "debug", "trace"]

/-- A level, by name in any case or by a number up to five, which a plus sign may precede. -/
def isLevel (s : List Char) : Bool :=
  let digits := match s with
    | '+' :: rest => rest
    | _ => s
  levels.contains (String.ofList (s.map Char.toLower))
    || (!digits.isEmpty && digits.all Char.isDigit
        && digits.foldl (fun n c => n * 10 + (c.toNat - '0'.toNat)) 0 ≤ 5)

/-- A field has a name, and may have a value behind an equals sign; another such sign ends the value. -/
def isField (s : List Char) : Bool :=
  !s.isEmpty
    && match s.dropWhile (· != '=') with
      | [] => true
      | _ :: value => FieldValue.isWellFormed (value.takeWhile (· != '='))

/-- Why a directive cannot be used. -/
inductive Flaw where
  | malformed
  /-- A part begins or ends inside a character. -/
  | splitCharacter
deriving DecidableEq, Repr

/-- The part of a directive between two positions. -/
def part (whole : List Char) (first last : Nat) : Except Flaw (List Char) :=
  match Cut.between? whole first last with
  | some s => .ok s
  | none => .error .splitCharacter

/-- How far a directive has been read, and where the part begins that is being read. -/
inductive Stage where
  | start
  | target
  | span (first : Nat)
  | field (first : Nat)
  | fieldsDone
  | spanDone
  | level (first : Nat)
deriving DecidableEq, Repr

namespace Stage

/-- Reads the character at a position. A target begins like a word or with one of three marks; from there on it is
free up to its end. -/
def next (whole : List Char) (i : Nat) : Stage → Char → Except Flaw Stage
  | start, '[' => .ok (span (i + 1))
  | start, c =>
    if c = '-' ∨ c = ':' ∨ c = '_' ∨ WordChar.contains c then .ok target else .error .malformed
  | target, '=' => (part whole 0 i).map fun _ => level (i + 1)
  | target, '[' => (part whole 0 i).map fun _ => span (i + 1)
  | target, _ => .ok target
  | span first, ']' => (part whole first i).map fun _ => spanDone
  | span first, '{' => (part whole first i).map fun _ => field (i + 1)
  | span first, _ => .ok (span first)
  | field first, '}' =>
    (part whole first i).bind fun s => if isField s then .ok fieldsDone else .error .malformed
  | field first, _ => .ok (field first)
  | fieldsDone, ']' => .ok spanDone
  | fieldsDone, _ => .error .malformed
  | spanDone, '=' => .ok (level (i + 1))
  | spanDone, _ => .error .malformed
  | level first, _ => .ok (level first)

/-- Reads characters from a position on. -/
def run (whole : List Char) (i : Nat) (stage : Stage) : List Char → Except Flaw Stage
  | [] => .ok stage
  | c :: s => (stage.next whole i c).bind fun stage => stage.run whole (i + c.utf8Size) s

/-- Whether a directive may end here; an empty level stands for all of them. -/
def finish (whole : List Char) : Stage → Except Flaw Unit
  | target | spanDone => .ok ()
  | level first =>
    (part whole first (Cut.size whole)).bind fun s =>
      if s.isEmpty || isLevel s then .ok () else .error .malformed
  | _ => .error .malformed

end Stage

/-- What is wrong with a directive, if anything. -/
def flaw? (s : List Char) : Option Flaw :=
  match (Stage.start.run s 0 (Blank.trim s)).bind (·.finish s) with
  | .ok () => none
  | .error e => some e

/-- The directives of a log level. -/
def ofLogLevel (logLevel : String) : List String := (logLevel.splitOn ",").filter (!·.isEmpty)

/-- Whether the log level can be read to its end. -/
def isReadable (logLevel : String) : Bool :=
  (ofLogLevel logLevel).all fun d => flaw? d.toList != some .splitCharacter

/-- The directives that are ignored, as far as the log level can be read. -/
def ignored (logLevel : String) : List String :=
  ((ofLogLevel logLevel).takeWhile fun d => flaw? d.toList != some .splitCharacter).filter
    fun d => flaw? d.toList == some .malformed

/-- The complaint about an ignored directive. -/
def complaint (d : String) : String := "ignoring `" ++ d ++ "`: invalid filter directive"

end GamepadPool.LogDirective
