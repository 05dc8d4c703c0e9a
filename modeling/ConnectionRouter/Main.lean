import ConnectionRouter.CommandLine.Run

/-!
# The program

Reads the files that a command names, runs it, prints what it has to say, and exits.
-/

namespace ConnectionRouter

/-- The text of a file, if it can be read. -/
def readFile? (path : String) : IO (Option String) := do
  try
    return some (← IO.FS.readFile path)
  catch _ =>
    return none

/-- Prints an outcome and tells its exit code. -/
def CommandOutcome.report (o : CommandOutcome) : IO UInt32 := do
  IO.print o.output.render
  match o.complaint with
  | none => pure ()
  | some complaint => IO.eprintln complaint
  return o.exitCode.toUInt32

end ConnectionRouter

open ConnectionRouter in
/-- The program. -/
def main (args : List String) : IO UInt32 := do
  match Command.parse args with
  | .error refusal => refusal.outcome.report
  | .ok command =>
    let files ← command.files.mapM fun path => do
      return (path, ← readFile? path)
    let file? := fun path => (files.lookup path).join
    (command.run file? true).report
