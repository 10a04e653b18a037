import RegexGateway.CommandLine.Run

namespace RegexGateway

namespace CommandLine

def readText (path : String) : IO (Except FileError String) := do
  try
    return .ok (← IO.FS.readFile path)
  catch
    | .noFileOrDirectory .. => return .error .missing
    | e => return .error (.other (toString e))

partial def idle : IO UInt32 := do
  IO.sleep 1000
  idle

/-- Ends as the program does. A crash has an exit code of its own. -/
def Ending.reach : Ending → IO UInt32
  | .exit code => return code.toUInt32
  | .lost .crash => return 101
  | .lost .endless => idle

def emit (output : Output) : IO UInt32 := do
  let stdout ← IO.getStdout
  let stderr ← IO.getStderr
  for line in output.stdout do stdout.putStrLn line
  stdout.flush
  for line in output.stderr do stderr.putStrLn line
  output.ending.reach

/-- Serves the pieces of a stream as they come, which are its lines. -/
partial def serveStream (handler : Handler) (input output : IO.FS.Stream) : IO UInt32 := do
  let piece ← input.getLine
  if piece.isEmpty then return 0
  let served := handler.serve piece.toList
  for line in served.lines do output.putStrLn line
  output.flush
  match served.loss with
  | none => serveStream handler input output
  | some loss => (Ending.lost loss).reach

end CommandLine

end RegexGateway

open RegexGateway CommandLine in
def main (arguments : List String) : IO UInt32 := do
  match parse arguments with
  | .error _ => emit (run arguments ⟨fun _ => .error .missing, ""⟩)
  | .ok invocation =>
    let contents ← invocation.files.mapM fun path => return (path, ← readText path)
    let file (path : String) := (contents.lookup path).getD (.error .missing)
    let surroundings (stdin : String) : Surroundings := ⟨file, stdin⟩
    match invocation.command, (surroundings "").registry invocation.enginesFile with
    | .serve, .ok registry =>
      match registry.require invocation.engine with
      | .ok caps => do
        serveStream (.ofTable caps) (← IO.getStdin) (← IO.getStdout)
      | .error _ => emit (invocation.run (surroundings ""))
    | _, _ =>
      let stdin ← if invocation.readsInput then (← IO.getStdin).readToEnd else pure ""
      emit (invocation.run (surroundings stdin))
