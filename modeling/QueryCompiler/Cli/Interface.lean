/-!
# Command-line interfaces

The description of a command line with subcommands, and the texts derived from it: the help
of each command and its usage lines.

A subcommand takes named arguments (`--name`, with a value written `--name <NAME>` or
`--name=<NAME>`, or a flag) and one required positional argument; `-h` and `--help` ask for
its help. The program itself takes a subcommand, `-h`/`--help` and `-V`/`--version`, and has a
`help` subcommand that shows the help of the command it names.

Help lists each section's entries with their descriptions aligned two spaces after the widest
entry of that section; options with no short form are indented as if they had one.
-/

namespace QueryCompiler

namespace Cli

/-- A named argument of a subcommand. -/
structure Switch where
  long : String
  /-- The placeholder of its value, or `none` for a flag. -/
  placeholder : Option String := none
  help : String
  /-- The value used when the argument is not given, as help shows it. -/
  default : Option String := none
  /-- Whether an empty value is refused, as it is for a path. -/
  nonEmpty : Bool := false
  deriving DecidableEq, Repr

/-- How a named argument is written in messages: `--name` or `--name <NAME>`. -/
def Switch.display (s : Switch) : String :=
  "--" ++ s.long ++ ((s.placeholder.map fun p => " <" ++ p ++ ">").getD "")

/-- A subcommand: named arguments and one required positional argument. -/
structure Subcommand where
  name : String
  about : String
  switches : List Switch
  positional : String
  positionalHelp : String
  deriving Repr

/-- A program with subcommands. -/
structure Program where
  name : String
  version : String
  about : String
  commands : List Subcommand
  deriving Repr

/-! ## Help texts -/

/-- Text padded with spaces to a width. -/
def padTo (width : Nat) (s : String) : String :=
  s ++ String.ofList (List.replicate (width - s.length) ' ')

/-- The lines of a help section: each entry, then its description two columns after the widest
entry. -/
def helpSection (title : String) (rows : List (String × String)) : String :=
  let width := (rows.map fun r => r.1.length).foldl max 0
  title ++ ":\n" ++ String.join (rows.map fun r => "  " ++ padTo width r.1 ++ "  " ++ r.2 ++ "\n")

/-- The placeholder of a subcommand's positional argument. -/
def Subcommand.placeholder (c : Subcommand) : String := "<" ++ c.positional ++ ">"

/-- The name a subcommand is invoked by. -/
def Subcommand.usageName (c : Subcommand) (p : Program) : String := p.name ++ " " ++ c.name

/-- The usage line of a subcommand as its help shows it. -/
def Subcommand.usage (c : Subcommand) (p : Program) : String :=
  c.usageName p ++ (if c.switches.isEmpty then "" else " [OPTIONS]") ++ " " ++ c.placeholder

/-- The usage line naming the arguments given, in order, and the positional argument. -/
def Subcommand.usageWith (c : Subcommand) (p : Program) (given : List Switch) : String :=
  c.usageName p ++ String.join (given.map fun s => " " ++ s.display) ++ " " ++ c.placeholder

/-- The help of a subcommand. -/
def Subcommand.helpText (c : Subcommand) (p : Program) : String :=
  let option (s : Switch) : String × String :=
    ("    " ++ s.display, s.help ++ ((s.default.map fun d => " [default: " ++ d ++ "]").getD ""))
  c.about ++ "\n\nUsage: " ++ c.usage p ++ "\n\n" ++
    helpSection "Arguments" [(c.placeholder, c.positionalHelp)] ++ "\n" ++
    helpSection "Options" (c.switches.map option ++ [("-h, --help", "Print help")])

/-- What the `help` subcommand says of itself. -/
def helpAbout : String := "Print this message or the help of the given subcommand(s)"

/-- The usage line of the program. -/
def Program.usage (p : Program) : String := p.name ++ " <COMMAND>"

/-- The help of the program. -/
def Program.helpText (p : Program) : String :=
  p.about ++ "\n\nUsage: " ++ p.usage ++ "\n\n" ++
    helpSection "Commands" (p.commands.map (fun c => (c.name, c.about)) ++ [("help", helpAbout)]) ++
    "\n" ++ helpSection "Options" [("-h, --help", "Print help"), ("-V, --version", "Print version")]

/-- The usage line of the `help` subcommand. -/
def Program.helpUsage (p : Program) : String := p.name ++ " help [COMMAND]..."

/-- The help of the `help` subcommand. -/
def Program.helpHelpText (p : Program) : String :=
  helpAbout ++ "\n\nUsage: " ++ p.helpUsage ++ "\n\n" ++
    helpSection "Arguments" [("[COMMAND]...", "Print help for the subcommand(s)")]

/-- The version line. -/
def Program.versionText (p : Program) : String := p.name ++ " " ++ p.version ++ "\n"

/-- The subcommand of a name. -/
def Program.command? (p : Program) (name : String) : Option Subcommand :=
  p.commands.find? (·.name == name)

/-- The names a subcommand may be given by, the `help` subcommand last. -/
def Program.commandNames (p : Program) : List String :=
  p.commands.map Subcommand.name ++ ["help"]

/-! ## This program -/

/-- The positional argument both subcommands take. -/
def urlHelp : String := "Absolute URL, or a path with a query string"

/-- The command line of the query compiler. -/
def program : Program where
  name := "aeroquery"
  version := "0.1.0"
  about := "Compiles URL query parameters into validated, allow-listed query plans"
  commands := [
    { name := "parse", about := "Parse a URL and print its query specification",
      switches := [], positional := "URL", positionalHelp := urlHelp },
    { name := "plan", about := "Compile a URL into a query plan",
      switches := [
        { long := "config", placeholder := some "CONFIG", nonEmpty := true,
          help := "Path to adapter configuration file (default: unrestricted)" },
        { long := "table", placeholder := some "TABLE", default := some "records",
          help := "Table the query selects from" },
        { long := "paginate", help := "Always paginate, filling in page 1 / size 30" }],
      positional := "URL", positionalHelp := urlHelp }]

end Cli

end QueryCompiler
