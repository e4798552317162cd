import QueryCompiler.Cli.Args
import QueryCompiler.Config.Decode
import QueryCompiler.Config.Registry
import QueryCompiler.Plan.Session
import QueryCompiler.Json.Write

/-!
# Running the command line

The two commands and what a run shows.

* `parse <URL>` prints the request the URL carries.
* `plan [--config <CONFIG>] [--table <TABLE>] [--paginate] <URL>` reads the adapter from a
  configuration file (no operations are registered, so a configuration naming one fails to
  build; without a file every filter and sort is allowed), reads the request, and compiles it
  on the table (`records` unless given), paginated if asked. It prints the SQL, the relations
  loaded and the request with its defaults written back.

Output is indented JSON and a line break, with exit status 0. A failure prints
`<CODE>: <message>` and a line break on standard error, with status 1; a mistake in the
arguments prints its report on standard error, with status 2.
-/

namespace QueryCompiler

namespace Cli

/-- What a run shows: its exit status and its two output streams. -/
structure Report where
  exit : Nat
  stdout : String := ""
  stderr : String := ""
  deriving DecidableEq, Repr

/-- Why a command failed. -/
inductive Failure where
  | config (e : ConfigError)
  | plan (e : PlanError)
  deriving DecidableEq, Repr

/-- The failure code of a failure. -/
def Failure.code : Failure → FailureCode
  | .config _ => .configError
  | .plan e => e.code

/-- The display text of a failure. -/
def Failure.message : Failure → String
  | .config e => e.message
  | .plan e => e.message

section Commands

variable {m : Type → Type} [Monad m]

/-- Print the request a URL carries. -/
def parseCommand (url : String) : Except Failure Json :=
  match Request.ofUrl url with
  | .ok r => .ok r.toJson
  | .error e => .error (.plan (.url e))

/-- The adapter a configuration file describes, built with no registered operations; with no
file, the unrestricted adapter. -/
def loadAdapter (files : String → m (Except String String)) :
    Option String → m (Except Failure Adapter)
  | none => pure (.ok {})
  | some path => do
    match ← files path with
    | .error why => pure (.error (.config (.read why)))
    | .ok text =>
      pure <| match Config.ofText text with
        | .error e => .error (.config e)
        | .ok c =>
          match c.build {} with
          | .ok a => .ok a
          | .error e => .error (.plan e)

/-- Compile a URL on a table with an adapter. -/
def planWith (a : Adapter) (table : String) (paginate : Bool) (url : String) :
    Except Failure Json := do
  let r ← match Request.ofUrl url with
    | .ok r => pure r
    | .error e => throw (.plan (.url e))
  let s : Session := { adapter := a }
  let (_, run, err) := (if paginate then s.paginate else s.execute) Backend.accepting { table } r
  match err with
  | some e => throw (.plan e)
  | none =>
    pure (.obj [("sql", .str run.query.sql), ("relationships", Json.ofStrings run.relations),
                ("spec", run.request.toJson)])

/-- Run an invocation. -/
def runInvocation (files : String → m (Except String String)) (i : Invocation) :
    m (Except Failure Json) :=
  if i.command = "plan" then do
    match ← loadAdapter files (i.value? "config") with
    | .error f => pure (.error f)
    | .ok a =>
      pure (planWith a ((i.value? "table").getD "records") (i.given "paginate") i.positional)
  else pure (parseCommand i.positional)

/-- Run the command line with these arguments, reading files through `files`. -/
def run (files : String → m (Except String String)) (args : List String) : m Report :=
  match program.readCommandLine args with
  | .show text => pure { exit := 0, stdout := text }
  | .refuse text => pure { exit := 2, stderr := text }
  | .run i => do
    match ← runInvocation files i with
    | .ok out => pure { exit := 0, stdout := Json.pretty 0 out ++ "\n" }
    | .error f => pure { exit := 1, stderr := f.code.text ++ ": " ++ f.message ++ "\n" }

end Commands

end Cli

end QueryCompiler
