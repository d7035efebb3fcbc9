import GamepadPool.NameField
import GamepadPool.StickFilter
import GamepadPool.Text.Hex
import GamepadPool.Toml.Parser
/-! # Settings of a server
Every setting has a default; unknown ones are ignored. -/

namespace GamepadPool

/-- Where inputs come from. -/
inductive SourceKind where
  | physical
  | feed
deriving DecidableEq, Repr

namespace SourceKind

def name : SourceKind → String
  | physical => "physical"
  | feed => "feed"

instance : Named SourceKind := ⟨[physical, feed], name⟩

end SourceKind

structure DeadzoneSettings where
  isEnabled : Bool
  threshold : Number
deriving DecidableEq, Repr

def DeadzoneSettings.default : DeadzoneSettings := ⟨false, .half⟩

structure Settings where
  logLevel : String
  deviceCount : Nat
  source : SourceKind
  scanInterval : Nat
  charset : Charset
  hatOverridesStick : Bool
  deadzone : DeadzoneSettings
deriving DecidableEq, Repr

/-- What is wrong with settings. -/
inductive SettingsError where
  | unreadable
  | deviceCount (n : Nat)
  | threshold (x : Number)
  | scanInterval
deriving DecidableEq, Repr

namespace Settings

/-- The file a server looks for. -/
def fileName : String := "vpad.toml"

/-- Devices a server serves at most. -/
def deviceLimit : Nat := 16

def default : Settings := ⟨"info", 2, .physical, 250, .wide, false, .default⟩

/-- The input filter they ask for. -/
def filter (s : Settings) : StickFilter :=
  ⟨s.hatOverridesStick, if s.deadzone.isEnabled then some s.deadzone.threshold else none⟩

end Settings

/-! ## texts -/

/-- A number with the fewest digits that read back, never with an exponent. -/
def Number.plainText : Number → String
  | .rat q =>
    if q = 0 then "0"
    else
      match Decimal.positional (Decimal.shortest .single .up (if q < 0 then -q else q)) with
      | (whole, fraction) =>
        String.ofList ((if q < 0 then ['-'] else []) ++ whole ++ if fraction = [] then [] else '.' :: fraction)
  | .negZero => "-0"
  | .infinite true => "-inf"
  | .infinite false => "inf"
  | .nan => "NaN"

def SettingsError.message : SettingsError → String
  | unreadable => "Failed to parse config"
  | deviceCount n => s!"device_count must be between 1 and {Settings.deviceLimit}, got {n}"
  | threshold x => "deadzone.threshold must be within [0, 1], got " ++ x.plainText
  | scanInterval => "scan_interval_ms must be positive"

namespace Settings

def quoteChar (c : Char) : List Char :=
  if c = '"' ∨ c = '\\' then ['\\', c]
  else if c.toNat < 32 ∨ c.toNat = 127 then ['\\', 'u'] ++ Hex.padded 4 c.toNat
  else [c]

def quote (s : String) : String := "\"" ++ String.ofList (s.toList.flatMap quoteChar) ++ "\""

def truth (b : Bool) : String := if b then "true" else "false"

/-- A float of a settings file shows that it is one. -/
def floatText (x : Number) : String :=
  let t := x.plainText
  if t.toList.all (fun c => c.isDigit || c == '-') then t ++ ".0" else t

/-- Settings as a file, the table of the deadzone last. -/
def text (s : Settings) : String :=
  "log_level = " ++ quote s.logLevel ++ "\n"
    ++ "device_count = " ++ toString s.deviceCount ++ "\n"
    ++ "source = " ++ quote s.source.name ++ "\n"
    ++ "scan_interval_ms = " ++ toString s.scanInterval ++ "\n"
    ++ "charset = " ++ quote s.charset.name ++ "\n"
    ++ "dpad_override = " ++ truth s.hatOverridesStick ++ "\n"
    ++ "\n[deadzone]\n"
    ++ "enabled = " ++ truth s.deadzone.isEnabled ++ "\n"
    ++ "threshold = " ++ floatText s.deadzone.threshold ++ "\n"

/-! ## checks -/

/-- The first of the three rules that is broken. -/
def validate (s : Settings) : Except SettingsError Settings :=
  if s.deviceCount < 1 ∨ deviceLimit < s.deviceCount then .error (.deviceCount s.deviceCount)
  else if !(Number.zero.le s.deadzone.threshold && s.deadzone.threshold.le .one) then
    .error (.threshold s.deadzone.threshold)
  else if s.scanInterval = 0 then .error .scanInterval
  else .ok s

/-! ## reading -/

def string? : Toml → Option String
  | .string s => some s
  | _ => none

def boolean? : Toml → Option Bool
  | .boolean b => some b
  | _ => none

def natural? : Toml → Option Nat
  | .integer n => if n < 0 then none else some n.toNat
  | _ => none

/-- In single precision; an integer will do. -/
def number? : Toml → Option Number
  | .integer n => some (BinaryFormat.single.round n)
  | .float x => some (BinaryFormat.single.convert x)
  | _ => none

/-- Holds nothing, be it an array or a table. -/
def isVoid : Toml → Bool
  | .array [] | .inlineTable [] | .table _ [] | .tables [] => true
  | _ => false

/-- A name, given as a string or as the only key of a table with nothing under it. -/
def choice? {α : Type} [Named α] : Toml → Option α
  | .string s => Named.ofName? s
  | .inlineTable [(k, v)] => if isVoid v then Named.ofName? k else none
  | .table _ [(k, v)] => if isVoid v then Named.ofName? k else none
  | _ => none

/-- A setting of a table; a missing one keeps its default. -/
def setting {α : Type} (read : Toml → Option α) (key : String) (fallback : α) (es : Toml.Entries) : Option α :=
  match Toml.lookup key es with
  | some v => read v
  | none => some fallback

def deadzoneOfEntries? (es : Toml.Entries) : Option DeadzoneSettings :=
  match setting boolean? "enabled" false es, setting number? "threshold" .half es with
  | some e, some t => some ⟨e, t⟩
  | _, _ => none

/-- Given in order, from the first. -/
def deadzoneOfItems? : List Toml → Option DeadzoneSettings
  | [] => some .default
  | [e] => (boolean? e).map (⟨·, .half⟩)
  | e :: t :: _ =>
    match boolean? e, number? t with
    | some e, some t => some ⟨e, t⟩
    | _, _ => none

/-- A table, or an array of its values in order; a date is a table without any known entry. -/
def deadzone? : Toml → Option DeadzoneSettings
  | .inlineTable es => deadzoneOfEntries? es
  | .table _ es => deadzoneOfEntries? es
  | .array items => deadzoneOfItems? items
  | .tables [] => some .default
  | .dateTime => some .default
  | _ => none

def ofEntries? (es : Toml.Entries) : Option Settings := do
  let logLevel ← setting string? "log_level" default.logLevel es
  let deviceCount ← setting natural? "device_count" default.deviceCount es
  let source ← setting choice? "source" default.source es
  let scanInterval ← setting natural? "scan_interval_ms" default.scanInterval es
  let charset ← setting choice? "charset" default.charset es
  let hatOverridesStick ← setting boolean? "dpad_override" default.hatOverridesStick es
  let deadzone ← setting deadzone? "deadzone" default.deadzone es
  return ⟨logLevel, deviceCount, source, scanInterval, charset, hatOverridesStick, deadzone⟩

/-- Settings from the text of a file. -/
def parse (text : String) : Except SettingsError Settings :=
  match (Toml.parse? text).bind ofEntries? with
  | none => .error .unreadable
  | some s => s.validate

end Settings
end GamepadPool
