/-! # Path texts
A path is kept as it was written; empty parts and single dots after the first part do not count. -/

namespace GamepadPool.Path

/-- The text without what does not count at its end. The text comes and goes reversed. -/
def trimReversed : List Char → List Char
  | ['/'] => ['/']
  | '/' :: rest => trimReversed rest
  | '.' :: '/' :: rest => trimReversed ('/' :: rest)
  | s => s

/-- The text without what does not count at its end. -/
def trim (p : List Char) : List Char := (trimReversed p.reverse).reverse

/-- What stands before the last part, and the last part. -/
def splitLast (p : List Char) : List Char × List Char :=
  ((p.reverse.dropWhile (· != '/')).reverse, (p.reverse.takeWhile (· != '/')).reverse)

/-- The path without its last part; the root and the empty path have none. -/
def parent? (p : String) : Option String :=
  match trim p.toList with
  | [] => none
  | ['/'] => none
  | t => some (String.ofList (trim (splitLast t).1))

/-- The last part, with what stands before it, if it names a file. -/
def fileName? (p : List Char) : Option (List Char × List Char) :=
  match splitLast (trim p) with
  | (_, []) => none
  | (_, ['.']) => none
  | (_, ['.', '.']) => none
  | r => some r

/-- A file name up to its last dot, unless the dot stands first. -/
def stem (name : List Char) : List Char :=
  match name.reverse.dropWhile (· != '.') with
  | [] => name
  | ['.'] => name
  | _ :: before => before.reverse

/-- What follows the last dot of a file name, unless the dot stands first. -/
def extension? (name : List Char) : Option (List Char) :=
  if (stem name).length < name.length then some (name.drop ((stem name).length + 1)) else none

/-- Puts an extension after the stem of the file name, if there is a file name. -/
def putExtension (p : List Char) (ext : String) : String :=
  match fileName? p with
  | none => String.ofList p
  | some (before, name) => String.ofList (before ++ stem name ++ ['.']) ++ ext

/-- The path with the extension of its file name replaced. The old one is first cut from the end of the text, so
that `..x` becomes `..`, which names no file and keeps no extension. -/
def withExtension (p ext : String) : String :=
  let cut :=
    match (fileName? p.toList).bind fun f => extension? f.2 with
    | none => 0
    | some old => old.length
  putExtension (p.toList.take (p.toList.length - cut)) ext

/-- A path taken from a directory; an absolute one stands for itself. -/
def join (dir p : String) : String :=
  match p.toList with
  | '/' :: _ => p
  | _ => if dir.isEmpty || dir.endsWith "/" then dir ++ p else dir ++ "/" ++ p

def isAbsolute (p : String) : Bool :=
  match p.toList with
  | '/' :: _ => true
  | _ => false

/-- Whether the last part of a path is followed by a slash. -/
def endsInSlash (p : String) : Bool :=
  match p.toList.reverse with
  | '/' :: _ => true
  | _ => false

/-- The parts that a system looks up in turn. -/
def parts (p : String) : List String :=
  let step (c : Char) : List (List Char) → List (List Char)
    | [] => if c = '/' then [[], []] else [[c]]
    | part :: rest => if c = '/' then [] :: part :: rest else (c :: part) :: rest
  ((p.toList.foldr step [[]]).filter (· ≠ [])).map String.ofList

end GamepadPool.Path
