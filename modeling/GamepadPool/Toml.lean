import GamepadPool.Number.Decimal
/-! # TOML values
What a settings file can hold. A table remembers how it came about, which decides what may still be added. -/

namespace GamepadPool

namespace Toml

inductive TableKind where
  /-- By a header of its own, or as the whole document. -/
  | explicit
  /-- By the header of a table inside it. -/
  | implied
  /-- By a dotted key. -/
  | dotted
deriving DecidableEq, Repr

end Toml

inductive Toml where
  | string (s : String)
  | integer (n : Int)
  | float (x : Number)
  | boolean (b : Bool)
  /-- Its parts never matter here. -/
  | dateTime
  | array (items : List Toml)
  /-- Complete where it stands. -/
  | inlineTable (entries : List (String × Toml))
  | table (kind : Toml.TableKind) (entries : List (String × Toml))
  /-- Tables under a repeated header. -/
  | tables (items : List (List (String × Toml)))

namespace Toml

instance : Inhabited Toml := ⟨.boolean false⟩

abbrev Entries := List (String × Toml)

/-- One line of a document. -/
inductive Statement where
  | entry (path : List String) (key : String) (value : Toml)
  | header (path : List String) (key : String)
  | itemHeader (path : List String) (key : String)

/-! ## adding entries -/

def lookup (key : String) (es : Entries) : Option Toml := List.lookup key es

/-- Replaces or adds an entry. -/
def put (key : String) (v : Toml) : Entries → Entries
  | [] => [(key, v)]
  | e :: rest => if e.1 = key then (key, v) :: rest else e :: put key v rest

/-- Changes the last of a list of tables. -/
def modifyLast (f : Entries → Option Entries) : List Entries → Option (List Entries)
  | [] => none
  | [t] => (f t).map ([·])
  | t :: rest => (modifyLast f rest).map (t :: ·)

/-- A new entry under a dotted key. A table with a header of its own takes no entries from elsewhere. -/
def insertEntry (direct : Bool) (kind : TableKind) (path : List String) (key : String) (v : Toml)
    (es : Entries) : Option Entries :=
  match path with
  | [] =>
    if (kind == .dotted) == direct then none
    else if (lookup key es).isSome then none
    else some (es ++ [(key, v)])
  | p :: rest =>
    match lookup p es with
    | none => (insertEntry false .dotted rest key v []).map fun t => es ++ [(p, .table .dotted t)]
    | some (.table .explicit _) => none
    | some (.table kind t) => (insertEntry false kind rest key v t).map fun t => put p (.table kind t) es
    | some (.tables ts) =>
      (modifyLast (insertEntry false .explicit rest key v) ts).map fun ts => put p (.tables ts) es
    | some _ => none

/-- Changes the table that a header's path leads to, which comes about if need be. -/
def within (f : Entries → Option Entries) (path : List String) (es : Entries) : Option Entries :=
  match path with
  | [] => f es
  | p :: rest =>
    match lookup p es with
    | none => (within f rest []).map fun t => es ++ [(p, .table .implied t)]
    | some (.table kind t) => (within f rest t).map fun t => put p (.table kind t) es
    | some (.tables ts) => (modifyLast (within f rest) ts).map fun ts => put p (.tables ts) es
    | some _ => none

/-- A header defines a table that was at most implied so far. -/
def define (key : String) (es : Entries) : Option Entries :=
  match lookup key es with
  | none => some (es ++ [(key, .table .explicit [])])
  | some (.table .implied t) => some (put key (.table .explicit t) es)
  | some _ => none

/-- A repeated header adds a table. -/
def defineItem (key : String) (es : Entries) : Option Entries :=
  match lookup key es with
  | none => some (es ++ [(key, .tables [[]])])
  | some (.tables ts) => some (put key (.tables (ts ++ [[]])) es)
  | some _ => none

/-- The table of an inline table's entries. -/
def inlineEntries : List (List String × String × Toml) → Entries → Option Entries
  | [], es => some es
  | (path, key, v) :: rest, es =>
    match insertEntry path.isEmpty .explicit path key v es with
    | some es => inlineEntries rest es
    | none => none

/-- The document that statements make. `current` is the path of the last header. -/
def assemble (current : List String) (es : Entries) : List Statement → Option Entries
  | [] => some es
  | .entry path key v :: rest =>
    match within (insertEntry path.isEmpty .explicit path key v) current es with
    | some es => assemble current es rest
    | none => none
  | .header path key :: rest =>
    match within (define key) path es with
    | some es => assemble (path ++ [key]) es rest
    | none => none
  | .itemHeader path key :: rest =>
    match within (defineItem key) path es with
    | some es => assemble (path ++ [key]) es rest
    | none => none

end Toml
end GamepadPool
