import GamepadPool.Text.WordChar
/-! # Modes of a pattern
Letters behind a question mark change how the rest of a group is read. -/

namespace GamepadPool.Pattern

/-- What of the modes decides whether a pattern can be used. -/
structure Mode where
  ignoresCase : Bool
  /-- Characters count, not bytes. -/
  unicode : Bool
  /-- Blanks and comments do not count. -/
  spaced : Bool
deriving DecidableEq, Repr

namespace Mode

def standard : Mode := ⟨false, true, false⟩

/-- The letters that name a mode. -/
def letters : List Char := ['i', 'm', 's', 'U', 'u', 'R', 'x']

def set (m : Mode) (letter : Char) (on : Bool) : Mode :=
  if letter = 'i' then { m with ignoresCase := on }
  else if letter = 'u' then { m with unicode := on }
  else if letter = 'x' then { m with spaced := on }
  else m

/-- How a list of modes ends: the modes hold on in their group, or for a group that begins here. -/
inductive Ending where
  | holdsOn
  | begins
deriving DecidableEq, Repr

/-- Reads a list of modes. Each is named once; those behind the one minus are taken back, and there are some. Modes
that hold on are not none. `seen` has the latest mark in front. -/
def readList (m : Mode) (seen : List Char) : List Char → Option (Mode × Ending × List Char)
  | [] => none
  | c :: s =>
    if c = ')' then if seen.head? = none ∨ seen.head? = some '-' then none else some (m, .holdsOn, s)
    else if c = ':' then if seen.head? = some '-' then none else some (m, .begins, s)
    else if seen.contains c then none
    else if c = '-' then readList m (c :: seen) s
    else if letters.contains c then readList (m.set c !seen.contains '-') (c :: seen) s
    else none

/-- Passes over blanks and comments; a comment ends with its line. -/
def skipSpace (inComment : Bool) : List Char → List Char
  | [] => []
  | c :: s =>
    if inComment then skipSpace (c != '\n') s
    else if c = '#' then skipSpace true s
    else if Blank.contains c then skipSpace false s
    else c :: s

/-- Passes over what does not count. -/
def skip (m : Mode) (s : List Char) : List Char := if m.spaced then skipSpace false s else s

/-- The next character that counts, except that a comment is looked into. -/
def peek? (m : Mode) (s : List Char) : Option Char :=
  if m.spaced then
    match s.dropWhile Blank.contains with
    | '#' :: s => (s.dropWhile Blank.contains).head?
    | s => s.head?
  else s.head?

/-- Whether a character may stand for itself. Which letters differ by case alone is known for bytes only. -/
def admits (m : Mode) : Bool := !(m.unicode && m.ignoresCase)

end Mode
end GamepadPool.Pattern
