import Agenda.Program
/-!
# The command

Reads the environment and the task file, runs the program and writes what it leaves behind.  The
file is read before the run, so that the run itself is a function of what was found.
-/

set_option autoImplicit false

namespace Agenda

/-- The reason behind a failed read. -/
def ReadError.ofIO : IO.Error → ReadError
  | .noFileOrDirectory .. => .notFound
  | .inappropriateType _ code _ => if code == 21 then .isDirectory else .notDirectory
  | error => .other (toString error)

/-- What is found under a path. -/
def readContents (path : String) : IO (Except ReadError ByteArray) := do
  try return .ok (← IO.FS.readBinFile path)
  catch error => return .error (.ofIO error)

end Agenda

/-- The command. -/
def main (words : List String) : IO UInt32 := do
  let taskFile ← IO.getEnv "HEAPQ_TASK_FILE"
  let logSetting ← IO.getEnv "RUST_LOG"
  let invocation : Agenda.Invocation := { words, taskFile, logSetting }
  let contents ←
    match Agenda.Arguments.ofWords words taskFile with
    | .ok { file := some path, .. } => Agenda.readContents path
    | _ => pure (.error .notFound)
  let transcript := Agenda.Program.run invocation fun _ => contents
  for line in transcript.log do
    IO.eprintln line
  IO.print transcript.output
  if let some complaint := transcript.complaint then
    IO.eprintln complaint.kind
  if let some error := transcript.error then
    IO.eprintln ("Error: " ++ error)
  if let some fault := transcript.fault then
    IO.eprintln fault
  return transcript.exitCode.toUInt32
