import GamepadPool.Pattern.Escape
/-! # Character sets in patterns
A set between brackets has characters, ranges, named classes and further sets as members, and is combined with
others by marks written twice. Of what was read only the depth is kept. -/

namespace GamepadPool.Pattern.CharacterSet

/-- The named classes of ASCII characters. -/
def classes : List String :=
  ["alnum", "alpha", "ascii", "blank", "cntrl", "digit", "graph", "lower", "print", "punct", "space", "upper",
   "word", "xdigit"]

/-- Whether a set may hold a character. One of bytes holds ASCII alone. -/
def admits (m : Mode) (c : Char) : Bool := m.admits && (m.unicode || c.toNat < 128)

/-- Whether a set may be taken the other way round, which for bytes gives more than text. -/
def mayNegate (m : Mode) : Bool := m.unicode

/-- Whether a set may have a member of its own. -/
def isUsable (m : Mode) (a : Atom) : Bool :=
  match a with
  | .shorthand _ => a.isUsable m
  | a => a.char?.any (admits m)

/-- The rest behind a named class, its bracket being read; none if there is no such class. -/
def readClass (s : List Char) : Option (Bool × List Char) :=
  match s with
  | ':' :: s =>
    let negated := s.head? = some '^'
    let s := if negated then s.tail else s
    match s.dropWhile (· != ':') with
    | ':' :: ']' :: rest =>
      if classes.contains (String.ofList (s.takeWhile (· != ':'))) then some (negated, rest) else none
    | _ => none
  | _ => none

def readAtom (m : Mode) : List Char → Option (Atom × List Char)
  | [] => none
  | '\\' :: s => readEscape m s
  | c :: s => some (.char c, s)

/-- The rest behind a character, a shorthand or a range. A range does not run backwards. -/
def readMember (m : Mode) (s : List Char) : Option (List Char) :=
  (readAtom m s).bind fun (a, s) =>
    let alone := if isUsable m a then some (m.skip s) else none
    match m.skip s with
    | '-' :: s =>
      if m.peek? s = some ']' ∨ m.peek? s = some '-' then alone
      else
        (readAtom m (m.skip s)).bind fun (b, s) =>
          match a.char?, b.char? with
          | some first, some last =>
            if first ≤ last ∧ admits m first ∧ admits m last then some s else none
          | _, _ => none
    | _ => alone

/-- The members read so far: how many, and the depth of the deepest. -/
structure Members where
  count : Nat
  depth : Nat
deriving DecidableEq, Repr

namespace Members

def empty : Members := ⟨0, 0⟩

def push (u : Members) (depth : Nat) : Members := ⟨u.count + 1, max u.depth depth⟩

/-- Several members are one deeper than the deepest. -/
def close (u : Members) : Nat := if u.count ≤ 1 then u.depth else u.depth + 1

/-- Combined with what stands on the left of a mark. -/
def combine (left : Option Nat) (u : Members) : Nat :=
  match left with
  | some d => max d u.close + 1
  | none => u.close

end Members

/-- The mark that combines sets, if one is here. -/
def isCombining (c : Char) (s : List Char) : Bool := ['&', '-', '~'].contains c && s.head? = some c

/-- Reads a set behind its bracket and the sign that negates it, up to the bracket that ends it. A minus is a
character before all others, and so is the ending bracket before any. `fuel` is more than the length. -/
def read (m : Mode) : Nat → Bool → Option Nat → Members → List Char → Option (Nat × List Char)
  | 0, _, _, _, _ => none
  | fuel + 1, atStart, left, members, s =>
    match m.skip s with
    | [] => none
    | c :: s =>
      if atStart && c = '-' then if admits m c then read m fuel true left (members.push 0) s else none
      else if atStart && c = ']' && members.count = 0 then
        if admits m c then read m fuel false left (members.push 0) s else none
      else if c = ']' then some (Members.combine left members, s)
      else if c = '[' then
        match readClass s with
        | some (negated, s) =>
          if m.admits && (!negated || mayNegate m) then read m fuel false left (members.push 0) s else none
        | none =>
          let negated := (m.skip s).head? = some '^'
          if negated && !mayNegate m then none
          else
            (read m fuel true none .empty (if negated then (m.skip s).tail else s)).bind fun (depth, s) =>
              read m fuel false left (members.push (depth + 1)) s
      else if isCombining c s then read m fuel false (some (Members.combine left members)) .empty s.tail
      else (readMember m (c :: s)).bind fun s => read m fuel false left (members.push 0) s

/-- Reads a set behind its first bracket. -/
def readAll (m : Mode) (s : List Char) : Option (Nat × List Char) :=
  let negated := (m.skip s).head? = some '^'
  if negated && !mayNegate m then none
  else read m (s.length + 1) true none .empty (if negated then (m.skip s).tail else s)

end GamepadPool.Pattern.CharacterSet
