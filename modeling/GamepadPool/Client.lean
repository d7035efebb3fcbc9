import GamepadPool.Call
import GamepadPool.Server
/-! # The client's end of a connection
Bytes come in at any pace. A call reads them up to the next line feed, or to their end once the other side has hung up;
what it leaves is read by the calls after it. -/

namespace GamepadPool

/-- The bytes up to and with the first line feed, and those behind it. -/
def cutLine? : List UInt8 → Option (List UInt8 × List UInt8)
  | [] => none
  | b :: rest => if b = 10 then some ([b], rest) else (cutLine? rest).map fun cut => (b :: cut.1, cut.2)

/-- A connection as its client sees it, byte by byte. -/
structure Inbox where
  /-- Bytes that came in and were not read yet. -/
  waiting : List UInt8
  /-- The other side has not hung up. -/
  isOpen : Bool
deriving DecidableEq, Repr

/-- What a call reads. -/
inductive Reading where
  /-- The request could not be sent. -/
  | unsent
  /-- A line; its end is missing where the other side hung up behind it, and there is nothing to it where the other side
  hung up before. -/
  | line (bytes : List UInt8)
deriving DecidableEq, Repr

namespace Inbox

/-- What comes in waits to be read. Nothing does once the other side has hung up. -/
def receive (b : Inbox) (arriving : List UInt8) (hangsUp : Bool) : Inbox :=
  if b.isOpen then ⟨b.waiting ++ arriving, !hangsUp⟩ else b

/-- Reads one line, or the rest if no more comes in; nothing as long as the line is not whole. -/
def readLine (b : Inbox) : Option (List UInt8 × Inbox) :=
  match cutLine? b.waiting with
  | some (line, rest) => some (line, { b with waiting := rest })
  | none => if b.isOpen then none else some (b.waiting, { b with waiting := [] })

/-- Sends a request, if that can be done, and reads one line of what waits and of what comes in meanwhile. Nothing if
that is no whole line and the other side stays: then the call waits forever, and with it all that come after. -/
def exchange (b : Inbox) (isSent : Bool) (arriving : List UInt8) (hangsUp : Bool) : Option (Reading × Inbox) :=
  if isSent then (b.receive arriving hangsUp).readLine.map fun read => (.line read.1, read.2)
  else some (.unsent, b.receive arriving hangsUp)

end Inbox

/-- The outcome of a call from what it reads. -/
def Call.conclude {α : Type} (c : Call α) (id : String) : Reading → Except CallError α
  | .unsent => .error .unsent
  | .line [] => c.outcome id none
  | .line bytes =>
    match decodeLine? bytes with
    | none => .error .notText
    | some text => c.outcome id (some text)

end GamepadPool
