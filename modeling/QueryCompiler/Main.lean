import QueryCompiler.Cli.Run

/-!
# The command-line program

Reads configuration files from the file system and prints a run's output.
-/

open QueryCompiler

/-- Why a file could not be read, as the system says it. -/
def describeReadError : IO.Error → String
  | .noFileOrDirectory .. => "No such file or directory (os error 2)"
  | .inappropriateType .. => "Is a directory (os error 21)"
  | .permissionDenied .. => "Permission denied (os error 13)"
  | e => toString e

/-- The text of a file, or why it could not be read. -/
def readText (path : String) : IO (Except String String) := do
  try
    pure (.ok (← IO.FS.readFile path))
  catch e =>
    pure (.error (describeReadError e))

def main (args : List String) : IO UInt32 := do
  let report ← Cli.run readText args
  IO.print report.stdout
  IO.eprint report.stderr
  pure report.exit.toUInt32
