import GamepadPool.Pattern.CharacterSet
import GamepadPool.Text.WordChar
/-! # Patterns
A pattern describes texts: characters and sets in sequence, repeated, grouped, one or another. Here it is decided
which texts are patterns that can be used. Repetition is not counted, so an opening brace is no part of one. -/

namespace GamepadPool.Pattern

/-- The depth a pattern may have. -/
def depthLimit : Nat := 250

/-- A part of a sequence; a change of modes is one that cannot be repeated. -/
structure Part where
  depth : Nat
  isRepeatable : Bool
deriving DecidableEq, Repr

/-- The depth of a sequence, one more than that of the deepest of several parts. -/
def sequenceDepth : List Part → Nat
  | [] => 0
  | [p] => p.depth
  | ps => (ps.map (·.depth)).foldl max 0 + 1

/-- The depth of the last branch beside those before it, if there are any. -/
def branchesDepth (before : Option Nat) (ps : List Part) : Nat :=
  match before with
  | some d => max d (sequenceDepth ps) + 1
  | none => sequenceDepth ps

/-! ## groups -/

/-- What an opening bracket begins. -/
inductive Opening where
  | modes (m : Mode)
  | group (m : Mode) (name : Option (List Char))
deriving DecidableEq, Repr

/-- A name begins with a letter or a low line, and goes on with numerals, points and brackets too. -/
def isGroupName : List Char → Bool
  | [] => false
  | c :: s =>
    (c == '_' || Letter.contains c)
      && s.all fun c => ['_', '.', '[', ']'].contains c || WordChar.contains c

/-- A group with a name, which an angle bracket ends. -/
def readGroupName (m : Mode) (s : List Char) : Option (Opening × List Char) :=
  match s.dropWhile (· != '>') with
  | [] => none
  | _ :: rest =>
    let name := s.takeWhile (· != '>')
    if isGroupName name then some (.group m (some name), rest) else none

/-- Reads what follows an opening bracket. Nothing is looked for around a place. -/
def readOpening (m : Mode) (s : List Char) : Option (Opening × List Char) :=
  match m.skip s with
  | '?' :: 'P' :: '<' :: s => readGroupName m s
  | '?' :: '<' :: s => readGroupName m s
  | '?' :: s =>
    (m.readList [] s).map fun (m, ending, s) =>
      match ending with
      | .holdsOn => (.modes m, s)
      | .begins => (.group m none, s)
  | s => some (.group m none, s)

/-! ## the whole -/

/-- The rest behind the mark that makes a repetition lazy. -/
def dropLazy : List Char → List Char
  | '?' :: s => s
  | s => s

/-- Reads an atom outside of sets. -/
def readAtom (m : Mode) (c : Char) (s : List Char) : Option (Atom × List Char) :=
  if c = '\\' then readEscape m s
  else if c = '.' then some (.any, s)
  else if c = '^' ∨ c = '$' then some (.edge, s)
  else some (.char c, s)

/-- Reads branches up to the bracket that ends their group, or up to the end. Gives their depth, the names of groups
so far, and the rest. `fuel` is more than the length. -/
def read : Nat → Mode → List (List Char) → Option Nat → List Part → List Char →
    Option (Nat × List (List Char) × List Char)
  | 0, _, _, _, _, _ => none
  | fuel + 1, m, names, before, parts, s =>
    match m.skip s with
    | [] => some (branchesDepth before parts, names, [])
    | c :: s =>
      if c = ')' then some (branchesDepth before parts, names, c :: s)
      else if c = '|' then
        read fuel m names (some (max (before.getD 0) (sequenceDepth parts))) [] s
      else if c = '(' then
        (readOpening m s).bind fun (opening, s) =>
          match opening with
          | .modes m => read fuel m names before (⟨0, false⟩ :: parts) s
          | .group inner name =>
            if name.any names.contains then none
            else
              (read fuel inner (name.toList ++ names) none [] s).bind fun (depth, names, s) =>
                match s with
                | ')' :: s => read fuel m names before (⟨depth + 1, true⟩ :: parts) s
                | _ => none
      else if c = '?' ∨ c = '*' ∨ c = '+' then
        match parts with
        | ⟨depth, true⟩ :: parts => read fuel m names before (⟨depth + 1, true⟩ :: parts) (dropLazy s)
        | _ => none
      else if c = '[' then
        (CharacterSet.readAll m s).bind fun (depth, s) =>
          read fuel m names before (⟨depth + 1, true⟩ :: parts) s
      else if c = '\x7b' then none
      else
        (readAtom m c s).bind fun (a, s) =>
          if a.isUsable m then read fuel m names before (⟨0, true⟩ :: parts) s else none

/-- Whether a text is a pattern that can be used. -/
def isWellFormed (s : List Char) : Bool :=
  match read (s.length + 1) .standard [] none [] s with
  | some (depth, _, []) => depth ≤ depthLimit
  | _ => false

end GamepadPool.Pattern
