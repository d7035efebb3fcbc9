import GamepadPool.Toml
/-! # Numbers, truth values, dates and times of settings files -/

namespace GamepadPool.Toml

/-! ## numbers -/

def digitValue (c : Char) : Nat :=
  if c.isDigit then c.toNat - 48 else if 'a' ≤ c then c.toNat - 87 else c.toNat - 55

def numberOf (base : Nat) (ds : List Char) : Nat := ds.foldl (fun n c => n * base + digitValue c) 0

/-- Digits with single underscores between them; nothing when an underscore leads nowhere. -/
def digitRun? (isDigit : Char → Bool) : List Char → Option (List Char × List Char)
  | c :: '_' :: d :: rest =>
    if isDigit c then
      if isDigit d then (digitRun? isDigit (d :: rest)).map fun r => (c :: r.1, r.2) else none
    else some ([], c :: '_' :: d :: rest)
  | [c, '_'] => if isDigit c then none else some ([], [c, '_'])
  | c :: rest =>
    if isDigit c then (digitRun? isDigit rest).map fun r => (c :: r.1, r.2) else some ([], c :: rest)
  | [] => some ([], [])

/-- At least one digit. -/
def digits? (isDigit : Char → Bool) (s : List Char) : Option (List Char × List Char) :=
  match digitRun? isDigit s with
  | some ([], _) => none
  | r => r

/-- A sign, if there is one. -/
def sign : List Char → Bool × List Char
  | '-' :: rest => (true, rest)
  | '+' :: rest => (false, rest)
  | s => (false, s)

/-- A whole part without leading zeros. -/
def whole? (s : List Char) : Option (List Char × List Char) :=
  match s with
  | '0' :: rest => some (['0'], rest)
  | s => digits? Char.isDigit s

/-- Fraction digits after a point; none where there is no point. -/
def fraction? : List Char → Option (Option (List Char) × List Char)
  | '.' :: rest => (digits? Char.isDigit rest).map fun r => (some r.1, r.2)
  | s => some (none, s)

def exponentOf? (s : List Char) : Option (Option Int × List Char) :=
  match sign s with
  | (negative, rest) =>
    (digits? Char.isDigit rest).map fun r =>
      (some (if negative then -(numberOf 10 r.1 : Int) else numberOf 10 r.1), r.2)

def exponent? : List Char → Option (Option Int × List Char)
  | 'e' :: rest => exponentOf? rest
  | 'E' :: rest => exponentOf? rest
  | s => some (none, s)

/-- An integer of 64 bits. -/
def ranged? (n : Int) : Option Toml :=
  if -0x8000000000000000 ≤ n ∧ n < 0x8000000000000000 then some (.integer n) else none

/-- The double a text stands for. One too large above is refused. -/
def floatOf? (negative : Bool) (whole fraction : List Char) (exponent : Int) : Option Toml :=
  match BinaryFormat.double.ofDecimal (numberOf 10 (whole ++ fraction)) (exponent - fraction.length) with
  | .infinite _ => if negative then some (.float (.infinite true)) else none
  | x => some (.float (if negative then x.neg else x))

/-- A decimal number after its sign. -/
def decimal? (negative : Bool) (s : List Char) : Option (Toml × List Char) :=
  match whole? s with
  | none => none
  | some (whole, rest) =>
    match fraction? rest with
    | none => none
    | some (fraction, rest) =>
      match exponent? rest with
      | none => none
      | some (exponent, rest) =>
        match fraction, exponent with
        | none, none => (ranged? (if negative then -(numberOf 10 whole : Int) else numberOf 10 whole)).map (·, rest)
        | fraction, exponent => (floatOf? negative whole (fraction.getD []) (exponent.getD 0)).map (·, rest)

def based? (base : Nat) (isDigit : Char → Bool) (s : List Char) : Option (Toml × List Char) :=
  match digits? isDigit s with
  | some (ds, rest) => (ranged? (numberOf base ds)).map (·, rest)
  | none => none

def isHex (c : Char) : Bool := c.isDigit || ('a' ≤ c && c ≤ 'f') || ('A' ≤ c && c ≤ 'F')

def signedNumber? (s : List Char) : Option (Toml × List Char) :=
  match sign s with
  | (negative, 'i' :: 'n' :: 'f' :: rest) => some (.float (.infinite negative), rest)
  | (_, 'n' :: 'a' :: 'n' :: rest) => some (.float .nan, rest)
  | (negative, rest) => decimal? negative rest

def number? : List Char → Option (Toml × List Char)
  | '0' :: 'x' :: rest => based? 16 isHex rest
  | '0' :: 'o' :: rest => based? 8 (fun c => '0' ≤ c && c ≤ '7') rest
  | '0' :: 'b' :: rest => based? 2 (fun c => c == '0' || c == '1') rest
  | s => signedNumber? s

/-! ## dates and times -/

/-- A number of two digits between bounds. -/
def two? (low high : Nat) : List Char → Option (Nat × List Char)
  | a :: b :: rest =>
    if a.isDigit && b.isDigit then
      let n := numberOf 10 [a, b]
      if low ≤ n ∧ n ≤ high then some (n, rest) else none
    else none
  | _ => none

def expect? (c : Char) : List Char → Option (List Char)
  | d :: rest => if c = d then some rest else none
  | [] => none

def isLeap (year : Nat) : Bool := year % 4 == 0 && (year % 100 != 0 || year % 400 == 0)

def monthLength (year month : Nat) : Nat :=
  if month = 2 then (if isLeap year then 29 else 28)
  else if month = 4 ∨ month = 6 ∨ month = 9 ∨ month = 11 then 30
  else 31

/-- Whether a text begins with four digits and a hyphen, as dates alone do. -/
def looksLikeDate : List Char → Bool
  | a :: b :: c :: d :: '-' :: _ => a.isDigit && b.isDigit && c.isDigit && d.isDigit
  | _ => false

/-- Whether a text begins with an hour and a colon, as times alone do. -/
def looksLikeTime : List Char → Bool
  | a :: b :: ':' :: _ => (two? 0 23 [a, b]).isSome
  | _ => false

def secondFraction? : List Char → Option (List Char)
  | '.' :: rest =>
    match rest.takeWhile Char.isDigit with
    | [] => none
    | _ => some (rest.dropWhile Char.isDigit)
  | s => some s

def hourMinute? (s : List Char) : Option (List Char) := do
  let (_, s) ← two? 0 23 s
  let s ← expect? ':' s
  let (_, s) ← two? 0 59 s
  return s

def time? (s : List Char) : Option (List Char) := do
  let s ← hourMinute? s
  let s ← expect? ':' s
  let (_, s) ← two? 0 60 s
  secondFraction? s

def offset? : List Char → Option (List Char)
  | 'Z' :: rest => some rest
  | 'z' :: rest => some rest
  | '+' :: rest => hourMinute? rest
  | '-' :: rest => hourMinute? rest
  | s => some s

/-- A time that follows a date. -/
def dayTime? : List Char → Option (List Char)
  | c :: rest =>
    if (c == 'T' || c == 't' || c == ' ') && looksLikeTime rest then (time? rest).bind offset?
    else some (c :: rest)
  | [] => some []

def date? : List Char → Option (List Char)
  | a :: b :: c :: d :: rest => do
    let year := numberOf 10 [a, b, c, d]
    let s ← expect? '-' rest
    let (month, s) ← two? 1 12 s
    let s ← expect? '-' s
    let (_, s) ← two? 1 (monthLength year month) s
    dayTime? s
  | _ => none

/-! ## all of them -/

def scalar? (s : List Char) : Option (Toml × List Char) :=
  match s with
  | 't' :: 'r' :: 'u' :: 'e' :: rest => some (.boolean true, rest)
  | 'f' :: 'a' :: 'l' :: 's' :: 'e' :: rest => some (.boolean false, rest)
  | s =>
    if looksLikeDate s then (date? s).map (.dateTime, ·)
    else if looksLikeTime s then (time? s).map (.dateTime, ·)
    else number? s

end GamepadPool.Toml
