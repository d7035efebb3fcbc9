import GamepadPool.FileTree
/-! # One server for each lock file
A lock file belongs to whoever holds it open under an exclusive lock; it keeps the holder's process number while
it is held and stays behind, empty, afterwards. A server's lock file stands beside its socket. -/

namespace GamepadPool

/-- Why a lock cannot be had. -/
inductive LockError where
  | directories (e : FileError)
  | unopened (path : String)
  | held (path : String)
deriving DecidableEq, Repr

def LockError.message : LockError → String
  | directories e => e.message
  | unopened path => "Failed to open lock file " ++ path
  | held path => "Another manager instance holds " ++ path

/-- Files, and the places of those that are locked. -/
structure LockedFiles where
  tree : FileTree
  held : List Place
deriving Repr

namespace LockedFiles

def ofTree (t : FileTree) : LockedFiles := ⟨t, []⟩

/-- Locks a file, which is created if need be, and writes the holder's number into it. -/
def acquire (l : LockedFiles) (path holder : String) : Except LockError (Place × LockedFiles) :=
  match l.tree.openForWriting path with
  | .error _ => .error (.unopened path)
  | .ok place =>
    if l.held.contains place then .error (.held path)
    else .ok (place, ⟨l.tree.put place (holder ++ "\n"), place :: l.held⟩)

/-- Empties the file and gives the lock up. A file that was removed meanwhile stays away. -/
def release (l : LockedFiles) (place : Place) : LockedFiles :=
  if l.held.contains place then ⟨l.tree.put place "", l.held.erase place⟩ else l

/-- Removes the file at a path, if there is one; its lock goes with it. -/
def remove (l : LockedFiles) (path : String) : LockedFiles :=
  match l.tree.removable? path with
  | none => l
  | some place => ⟨l.tree.remove place, l.held.filter (· != place)⟩

/-- The lock file of a socket. -/
def lockPath (socket : String) : String := Path.withExtension socket "lock"

/-- Prepares a server on a socket path: its directories, then its lock. The directories stay when the lock is
refused. -/
def start (l : LockedFiles) (socket holder : String) : Except LockError Place × LockedFiles :=
  match l.tree.makeAll ((Path.parent? socket).getD "") with
  | (.error e, tree) => (.error (.directories e), { l with tree := tree })
  | (.ok (), tree) =>
    match { l with tree := tree : LockedFiles }.acquire (lockPath socket) holder with
    | .ok (place, l) => (.ok place, l)
    | .error e => (.error e, { l with tree := tree })

end LockedFiles
end GamepadPool
