import GamepadPool.PathLookup
/-! # A tree of files
Directories and text files under one root, seen from a working directory. -/

namespace GamepadPool

structure FileTree where
  directories : List Place
  files : List (Place × String)
  /-- Where relative paths start. -/
  current : Place
deriving Repr

namespace FileTree

/-- The root alone. -/
def empty : FileTree := ⟨[], [], []⟩

def isDirectory (t : FileTree) (p : Place) : Bool := p.isEmpty || t.directories.contains p

def file? (t : FileTree) (p : Place) : Option String := t.files.lookup p

def kind? (t : FileTree) (p : Place) : Option EntryKind :=
  if t.isDirectory p then some .directory
  else if (t.file? p).isSome then some .file
  else none

def find (t : FileTree) (path : String) : Except FileError Target := PathLookup.find t.kind? t.current path

def findEntry (t : FileTree) (path : String) : Except FileError (Place × EntryKind) :=
  PathLookup.findEntry t.kind? t.current path

def isThere (t : FileTree) (path : String) : Bool :=
  match t.findEntry path with
  | .ok _ => true
  | .error _ => false

def isDirectoryAt (t : FileTree) (path : String) : Bool :=
  match t.findEntry path with
  | .ok (_, .directory) => true
  | _ => false

/-! ## directories -/

def makeDirectory (t : FileTree) (path : String) : Except FileError FileTree :=
  match t.find path with
  | .error e => .error e
  | .ok x =>
    if x.isNamed && (t.kind? x.place).isNone then .ok { t with directories := t.directories ++ [x.place] }
    else .error .alreadyThere

/-- A directory that may be there already. -/
def ensureDirectory (t : FileTree) (path : String) : Except FileError Unit × FileTree :=
  match t.makeDirectory path with
  | .ok t => (.ok (), t)
  | .error e => (if t.isDirectoryAt path then .ok () else .error e, t)

/-- A directory with all that lead to it; those made before one fails stay. `fuel` bounds their number. -/
def makeDirectories : Nat → FileTree → String → Except FileError Unit × FileTree
  | 0, t, _ => (.error .notFound, t)
  | fuel + 1, t, path =>
    if path.isEmpty then (.ok (), t)
    else
      match t.makeDirectory path with
      | .ok t => (.ok (), t)
      | .error .notFound =>
        match (Path.parent? path).map (makeDirectories fuel t) with
        | none => (.error .notFound, t)
        | some (.error e, t) => (.error e, t)
        | some (.ok (), t) => t.ensureDirectory path
      | .error e => (if t.isDirectoryAt path then .ok () else .error e, t)

def makeAll (t : FileTree) (path : String) : Except FileError Unit × FileTree :=
  makeDirectories (path.length + 1) t path

/-! ## files -/

/-- The place of a file to be written, which need not exist yet. -/
def openForWriting (t : FileTree) (path : String) : Except FileError Place :=
  match t.find path with
  | .error e => .error e
  | .ok x =>
    match t.kind? x.place with
    | some .directory => .error .isDirectory
    | some .file => if x.wantsDirectory then .error .notDirectory else .ok x.place
    | none => if x.isNamed && !x.wantsDirectory then .ok x.place else .error .isDirectory

/-- Puts a text into a file. -/
def put (t : FileTree) (place : Place) (text : String) : FileTree :=
  { t with
    files :=
      if (t.file? place).isSome then t.files.map fun f => if f.1 = place then (place, text) else f
      else t.files ++ [(place, text)] }

def read (t : FileTree) (path : String) : Except FileError String :=
  match t.findEntry path with
  | .error e => .error e
  | .ok (place, _) =>
    match t.file? place with
    | some text => .ok text
    | none => .error .isDirectory

/-- The place of a new entry other than a directory; nothing may stand there. -/
def freshPlace (t : FileTree) (path : String) : Except FileError Place :=
  match t.find path with
  | .error e => .error e
  | .ok x =>
    if !x.isNamed || (t.kind? x.place).isSome then .error .alreadyThere
    else if x.wantsDirectory then .error .notFound
    else .ok x.place

/-- The place of the file that a path leads to, if it can be removed. -/
def removable? (t : FileTree) (path : String) : Option Place :=
  match t.findEntry path with
  | .ok (place, .file) => some place
  | _ => none

def remove (t : FileTree) (place : Place) : FileTree := { t with files := t.files.filter (·.1 != place) }

/-! ## listings -/

/-- Files below a directory, by their path from it. -/
def filesBelow (t : FileTree) (dir : Place) : List String :=
  (t.files.filterMap fun f =>
    if dir.isPrefixOf f.1 then some ("/".intercalate (f.1.drop dir.length)) else none).mergeSort (· ≤ ·)

/-- Names in a directory. -/
def namesIn (t : FileTree) (dir : Place) : List String :=
  ((t.directories ++ t.files.map (·.1)).filterMap fun p =>
    if dir.isPrefixOf p && p.length == dir.length + 1 then p.getLast? else none).mergeSort (· ≤ ·)

end FileTree

/-! ## a bare host

Directories and files that are there before a server starts. -/

namespace HostTree

def directories : List Place :=
  [["bin"], ["boot"], ["dev"], ["dev", "input"], ["etc"], ["home"], ["lib"], ["media"], ["mnt"], ["opt"], ["proc"],
   ["root"], ["run"], ["sbin"], ["srv"], ["sys"], ["tmp"], ["usr"], ["var"]]

/-- Special files read as empty. -/
def files : List (Place × String) :=
  [(["dev", "null"], ""), (["dev", "zero"], ""), (["dev", "full"], ""), (["etc", "group"], "root:x:0:\n"),
   (["etc", "hostname"], "localhost\n"), (["etc", "hosts"], "127.0.0.1 localhost\n"),
   (["etc", "passwd"], "root:x:0:0:root:/root:/bin/sh\n")]

/-- The tree as a process sees it that works in an empty directory. -/
def tree (current : Place) : FileTree := ⟨directories ++ [current], files, current⟩

end HostTree
end GamepadPool
