import GamepadPool.Daemon
/-! # The program
Serves one connection: commands are read from standard input, and answers go to standard output. -/

namespace GamepadPool

@[reducible] instance binaryArithmetic : Arithmetic := .binary

/-- Writes the default settings, with the directories that lead to them. -/
def writeDefaults (path : String) : IO (Except LoadError Settings) := do
  let above := (Path.parent? path).getD ""
  try
    unless above.isEmpty do IO.FS.createDirAll above
  catch e => return .error (.create above (toString e))
  try
    IO.FS.writeFile path Settings.default.text
    return .ok .default
  catch e => return .error (.write path (toString e))

/-- Settings from a file, which is written with the defaults where there is none. -/
def loadSettings (path : String) : IO (Except LoadError Settings) := do
  try
    let text ← IO.FS.readFile path
    return (Settings.parse text).mapError (.invalid path)
  catch
    | .noFileOrDirectory .. => writeDefaults path
    | e => return .error (.read path (toString e))

/-- Answers line after line until the input ends. -/
partial def serveLines (input output : IO.FS.Stream) (h : Host Supply) (ss : Sessions) : IO Unit := do
  let line ← input.getLine
  if line.isEmpty then return
  let (reply, h, ss) := h.answerLine ss line
  if let some text := reply then
    output.putStrLn text
    output.flush
  serveLines input output h ss

/-- Says why nobody is served. -/
def refuse (e : Refusal) : IO UInt32 := do
  for line in e.diagnosis do (← IO.getStderr).putStrLn line
  return .ofNat e.exitCode

def run (o : Options) : IO UInt32 := do
  match ← loadSettings o.settings with
  | .error e => refuse (.settings e)
  | .ok s =>
    if !LogDirective.isReadable s.logLevel then refuse (.logLevel s.logLevel)
    else
      serveLines (← IO.getStdin) (← IO.getStdout) (.start s.interface (Supply.ofSettings s)) []
      return 0

end GamepadPool

def main (args : List String) : IO UInt32 :=
  match GamepadPool.Invocation.ofArguments args with
  | .information => return 0
  | .misuse => return 2
  | .run o => GamepadPool.run o
