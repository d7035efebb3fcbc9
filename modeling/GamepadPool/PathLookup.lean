import GamepadPool.Path
/-! # Looking up paths
A path is followed name by name from a directory. What stands at each place is a parameter, so that the rules of
lookup are the same for every tree. -/

namespace GamepadPool

/-- What the system answers to a failed request about files. -/
inductive FileError where
  | notFound
  | alreadyThere
  | notDirectory
  | isDirectory
  | nameTooLong
  /-- Paths cannot hold the character that ends a text. -/
  | endMark
deriving DecidableEq, Repr

def FileError.message : FileError → String
  | notFound => "No such file or directory (os error 2)"
  | alreadyThere => "File exists (os error 17)"
  | notDirectory => "Not a directory (os error 20)"
  | isDirectory => "Is a directory (os error 21)"
  | nameTooLong => "File name too long (os error 36)"
  | endMark => "file name contained an unexpected NUL byte"

/-- Names from the root down. -/
abbrev Place := List String

inductive EntryKind where
  | directory
  | file
deriving DecidableEq, Repr

/-- Where a path leads. -/
structure Target where
  place : Place
  /-- The path ends in a name, not in dots, so that nothing need stand there yet. -/
  isNamed : Bool
  /-- A slash follows the last part. -/
  wantsDirectory : Bool
deriving DecidableEq, Repr

namespace PathLookup

/-- Bytes of a name. -/
def nameLimit : Nat := 255

/-- Bytes of a path, the end mark included. -/
def pathLimit : Nat := 4096

/-- Goes down from a directory. A place below a file is told from a missing one. -/
def walk (kind? : Place → Option EntryKind) (place : Place) : List String → Except FileError Place
  | [] => .ok place
  | "." :: rest => walk kind? place rest
  | ".." :: rest => walk kind? place.dropLast rest
  | name :: rest =>
    if nameLimit < name.utf8ByteSize then .error .nameTooLong
    else
      match kind? (place ++ [name]) with
      | some .directory => walk kind? (place ++ [name]) rest
      | some .file => .error .notDirectory
      | none => .error .notFound

/-- The end of a walk, given in reverse. All that leads to the last part must be directories. -/
def finish (kind? : Place → Option EntryKind) (start : Place) (wantsDirectory : Bool) :
    List String → Except FileError Target
  | [] => .ok ⟨start, false, true⟩
  | last :: before =>
    if last = "." ∨ last = ".." then (walk kind? start (before.reverse ++ [last])).map (⟨·, false, true⟩)
    else
      match walk kind? start before.reverse with
      | .error e => .error e
      | .ok place =>
        if nameLimit < last.utf8ByteSize then .error .nameTooLong
        else .ok ⟨place ++ [last], true, wantsDirectory⟩

/-- Follows a path; a relative one starts in `current`. -/
def find (kind? : Place → Option EntryKind) (current : Place) (path : String) : Except FileError Target :=
  if path.toList.contains '\x00' then .error .endMark
  else if path.isEmpty then .error .notFound
  else if pathLimit ≤ path.utf8ByteSize then .error .nameTooLong
  else
    finish kind? (if Path.isAbsolute path then [] else current) (Path.endsInSlash path)
      (Path.parts path).reverse

/-- Follows a path to what stands there. -/
def findEntry (kind? : Place → Option EntryKind) (current : Place) (path : String) :
    Except FileError (Place × EntryKind) :=
  match find kind? current path with
  | .error e => .error e
  | .ok t =>
    match kind? t.place with
    | none => .error .notFound
    | some .file => if t.wantsDirectory then .error .notDirectory else .ok (t.place, .file)
    | some .directory => .ok (t.place, .directory)

end PathLookup
end GamepadPool
