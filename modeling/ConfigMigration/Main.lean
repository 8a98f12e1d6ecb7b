import ConfigMigration.CommandLine.Program

/-!
# The command line

Reads the files that the command names, runs the program, and writes what it has to say.  No connection is made from
here: the gateway of a migration does not answer.
-/

namespace ConfigMigration.CommandLine

/-- The bytes of a file. -/
def readFile (path : String) : IO (Except FileError ByteArray) := do
  try
    return .ok (← IO.FS.readBinFile path)
  catch
    | .noFileOrDirectory .. => return .error .notFound
    | .inappropriateType _ 20 _ => return .error .notDirectory
    | .inappropriateType .. => return .error .isDirectory
    | e => return .error (.other (toString e))

/-- The files that a command reads. -/
def readFiles (command : Command) : IO Files := do
  let lookUp (paths : List String) : IO Files := do
    return Files.ofLookups (← paths.mapM fun path => return (path, ← readFile path))
  let first ← lookUp (Execution.filesRead (.ofLookups []) command)
  lookUp (Execution.filesRead first command)

end ConfigMigration.CommandLine

open ConfigMigration CommandLine

/-- Runs the program on the words of a command line. -/
def main (words : List String) : IO UInt32 := do
  let files ←
    match Invocation.parse words with
    | .ok i => readFiles i.command
    | .error _ => pure (Files.ofLookups [])
  let run := ProgramRun.run files ({} : Unplugged) (← IO.getEnv "RUST_LOG") words
  for output in run.output do
    match output, run.format with
    | .line text, _ => IO.println text
    | .event e, .text => IO.println e.line
    | .event e, .json => IO.println e.toJson.render
  if let some complaint := run.complaint then IO.eprintln complaint
  return run.exitCode
