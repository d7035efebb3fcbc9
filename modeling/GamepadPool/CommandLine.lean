/-! # The command line
Three options with a value, each given at most once, in a short and a long form; a value may be attached with an
equals sign, and to the short form also without one. Asking for help or the version ends everything at once. -/

namespace GamepadPool

structure Options where
  socket : Option String
  instanceNumber : Nat
  settings : String
deriving DecidableEq, Repr

/-- What a command line asks for. -/
inductive Invocation where
  | run (o : Options)
  /-- Help or the version was asked for. -/
  | information
  | misuse
deriving DecidableEq, Repr

namespace CommandLine

inductive Key where
  | socket
  | instanceNumber
  | settings
deriving DecidableEq, Repr

/-- Options seen so far, with their values. -/
abbrev Seen := List (Key × String)

def longKey? (name : String) : Option Key :=
  match name with
  | "socket" => some .socket
  | "instance" => some .instanceNumber
  | "config" => some .settings
  | _ => none

def shortKey? : Char → Option Key
  | 's' => some .socket
  | 'i' => some .instanceNumber
  | 'c' => some .settings
  | _ => none

/-- A signed decimal number. -/
def integer? (s : String) : Option Int :=
  let (negative, ds) := match s.toList with
    | '+' :: ds => (false, ds)
    | '-' :: ds => (true, ds)
    | ds => (false, ds)
  if ds = [] ∨ !ds.all Char.isDigit then none
  else
    let n : Nat := ds.foldl (fun n c => n * 10 + (c.toNat - 48)) 0
    some (if negative then -(n : Int) else n)

/-- A number of 32 bits; a zero may have any sign. -/
def number? (s : String) : Option Nat :=
  match integer? s with
  | some n => if 0 ≤ n ∧ n < 0x100000000 then some n.toNat else none
  | none => none

/-- Paths must not be empty, and the instance must be a number. -/
def isValid : Key → String → Bool
  | .instanceNumber, v => (number? v).isSome
  | _, v => !v.isEmpty

/-- Records a value, unless the option was given before. -/
def record? (seen : Seen) (k : Key) (v : String) : Option Seen :=
  if seen.any (·.1 == k) || !isValid k v then none else some ((k, v) :: seen)

/-- Looks like an option and so is no value. -/
def isOption (arg : String) : Bool :=
  match arg.toList with
  | '-' :: _ :: _ => true
  | _ => false

/-- What an argument is. -/
inductive Token where
  | information
  | option (k : Key)
  | attached (k : Key) (value : String)
  | finish
  | other
deriving DecidableEq, Repr

def short : List Char → Token
  | 'h' :: _ => .information
  | 'V' :: _ => .information
  | c :: rest =>
    match shortKey? c, rest with
    | none, _ => .other
    | some k, [] => .option k
    | some k, '=' :: v => .attached k (String.ofList v)
    | some k, v => .attached k (String.ofList v)
  | [] => .other

def token (arg : String) : Token :=
  match arg.toList with
  | ['-', '-'] => .finish
  | '-' :: '-' :: rest =>
    let name := String.ofList (rest.takeWhile (· != '='))
    match rest.dropWhile (· != '=') with
    | [] =>
      if name = "help" ∨ name = "version" then .information
      else
        match longKey? name with
        | some k => .option k
        | none => .other
    | _ :: v =>
      match longKey? name with
      | some k => .attached k (String.ofList v)
      | none => .other
  | '-' :: rest => short rest
  | _ => .other

def value? (seen : Seen) (k : Key) : Option String := seen.lookup k

/-- The options with their defaults. -/
def options (seen : Seen) : Options where
  socket := value? seen .socket
  instanceNumber := ((value? seen .instanceNumber).bind number?).getD 0
  settings := (value? seen .settings).getD "vpad.toml"

/-- Arguments from left to right; the first fault or question decides. -/
def parse (seen : Seen) : List String → Invocation
  | [] => .run (options seen)
  | arg :: rest =>
    match token arg with
    | .information => .information
    | .finish => if rest.isEmpty then .run (options seen) else .misuse
    | .other => .misuse
    | .attached k v =>
      match record? seen k v with
      | some seen => parse seen rest
      | none => .misuse
    | .option k =>
      match rest with
      | [] => .misuse
      | v :: rest =>
        if isOption v then .misuse
        else
          match record? seen k v with
          | some seen => parse seen rest
          | none => .misuse

end CommandLine

/-- What a list of arguments asks for. -/
def Invocation.ofArguments (args : List String) : Invocation := CommandLine.parse [] args

/-- Where a server of an instance listens unless told otherwise. -/
def instanceSocket (user : String) (number : Nat) : String :=
  "/run/user/" ++ user ++ "/vpad-" ++ toString number

end GamepadPool
