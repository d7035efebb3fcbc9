import GamepadPool.LockedFiles
/-! # The socket of a server
A server listens at a path. What an earlier server left there is removed first. -/

namespace GamepadPool

/-- Why a server cannot listen. -/
inductive ListenError where
  | pathTooLong
  | inUse
  | path (e : FileError)
deriving DecidableEq, Repr

def ListenError.message : ListenError → String
  | pathTooLong => "path must be shorter than SUN_LEN"
  | inUse => "Address already in use (os error 98)"
  | path e => e.message

namespace LockedFiles

/-- Bytes of a socket's path, the end mark included. -/
def socketPathLimit : Nat := 108

/-- Makes a socket where nothing is. -/
def bindSocket (l : LockedFiles) (path : String) : Except ListenError LockedFiles :=
  if socketPathLimit ≤ path.utf8ByteSize then .error .pathTooLong
  else
    match l.tree.freshPlace path with
    | .error .alreadyThere => .error .inUse
    | .error e => .error (.path e)
    | .ok place => .ok { l with tree := l.tree.put place "" }

/-- Makes the socket in place of any file at its path; the file is lost also where that fails. -/
def listen (l : LockedFiles) (path : String) : Except ListenError Unit × LockedFiles :=
  match (l.remove path).bindSocket path with
  | .ok l => (.ok (), l)
  | .error e => (.error e, l.remove path)

end LockedFiles
end GamepadPool
