import QueryCompiler.Cli.Interface
import QueryCompiler.Cli.Similarity

/-!
# Reading a command line

How the arguments after the program name are read, and what is said when they are wrong.

1. The program takes a subcommand name, `-h`/`--help` (its help, then stop) and
   `-V`/`--version` (its version, then stop). With no argument at all it shows its help as an
   error. An unknown name is reported, with the similar subcommand names as tips; an unknown
   option with a similar option of the program, or of a subcommand named later, as a tip.
2. A subcommand reads its arguments left to right. `--name value` and `--name=value` give an
   option its value; `--` makes every later argument positional. An option given twice, a flag
   given a value, an option left without one (or a path given the empty one), a second
   positional argument and an unknown option are mistakes, as is a missing positional argument.
   A value is checked when the next option, positional argument or the end is reached, so a
   mistake found in the meantime is reported first.
3. A mistake is reported as `error: <what>`, its tips, a usage line and a pointer to `--help`.
   The usage line is the command's full one, or, where the mistake concerns what was given,
   the command with the options given so far and its positional argument.
-/

namespace QueryCompiler

namespace Cli

/-- A mistake on a command line, as reported. -/
structure UsageError where
  message : String
  tips : List String := []
  usage : Option String := none

/-- The text of a mistake. -/
def UsageError.render (e : UsageError) : String :=
  "error: " ++ e.message ++
    (if e.tips.isEmpty then "" else "\n" ++ String.join (e.tips.map fun t => "\n  tip: " ++ t)) ++
    ((e.usage.map fun u => "\n\nUsage: " ++ u).getD "") ++
    "\n\nFor more information, try \x27--help\x27.\n"

/-- A text between single quotes. -/
def quote (s : String) : String := "\x27" ++ s ++ "\x27"

/-- A command to run, as the command line gives it. -/
structure Invocation where
  command : String
  /-- The named arguments given and their values; a flag has the empty value. -/
  named : List (String × String)
  positional : String
  deriving DecidableEq, Repr

/-- The value of a named argument, if given. -/
def Invocation.value? (i : Invocation) (name : String) : Option String := i.named.lookup name

/-- Whether a named argument was given. -/
def Invocation.given (i : Invocation) (name : String) : Bool := (i.named.lookup name).isSome

/-- What reading a command line gives. -/
inductive Reading where
  /-- A command to run. -/
  | run (i : Invocation)
  /-- Text for standard output, and nothing to run: help or the version. -/
  | show (text : String)
  /-- Text for standard error: a mistake, or help asked for by giving nothing. -/
  | refuse (text : String)
  deriving DecidableEq, Repr

/-! ## Subcommands -/

/-- Where a value of a subcommand's argument goes. -/
inductive Slot where
  | named (s : Switch)
  | positional
  deriving DecidableEq, Repr

/-- A slot whose values are read but not yet checked. -/
structure Pending where
  slot : Slot
  values : List String
  /-- Whether the slot still waits for its value (an option just named without one). -/
  waiting : Bool

/-- What has been read of a subcommand's arguments. -/
structure Progress where
  /-- The checked arguments in the order they were checked; a flag has the empty value. -/
  taken : List (Slot × String) := []
  pending : Option Pending := none
  /-- Whether `--` was given. -/
  trailing : Bool := false
  /-- Whether the positional argument was read. -/
  positionalRead : Bool := false

namespace Progress

/-- Whether a slot was checked. -/
def has (p : Progress) (s : Slot) : Bool := p.taken.any (·.1 == s)

/-- The named arguments checked, in order. -/
def switches (p : Progress) : List Switch :=
  p.taken.filterMap fun t => match t.1 with
    | .named s => some s
    | .positional => none

end Progress

section Reading

variable (prog : Program) (cmd : Subcommand)

/-- A mistake, reported. -/
def refuse (e : UsageError) : Reading := .refuse e.render

/-- An option left without a value. -/
def emptyValue (s : Switch) : Reading :=
  refuse { message := "a value is required for " ++ quote s.display ++ " but none was supplied" }

/-- An argument given twice. -/
def givenTwice (s : Switch) : Reading :=
  refuse { message := "the argument " ++ quote s.display ++ " cannot be used multiple times",
           usage := some (cmd.usage prog) }

/-- Check a slot's values and take it. -/
def accept (p : Progress) (slot : Slot) (values : List String) : Except Reading Progress :=
  match slot with
  | .positional => .ok { p with taken := p.taken ++ [(.positional, values.headD "")] }
  | .named s =>
    if s.placeholder.isSome && values.isEmpty then .error (emptyValue s)
    else if p.has slot then .error (givenTwice prog cmd s)
    else if s.nonEmpty && values = [""] then .error (emptyValue s)
    else .ok { p with taken := p.taken ++ [(slot, values.headD "")] }

/-- Check the pending slot, if any. -/
def settle (p : Progress) : Except Reading Progress :=
  match p.pending with
  | none => .ok p
  | some q => accept prog cmd { p with pending := none } q.slot q.values

/-- Check the pending slot on the way to reporting another mistake: its own mistake is not
reported. -/
def settleQuietly (p : Progress) : Progress :=
  match settle prog cmd p with
  | .ok p' => p'
  | .error _ => { p with pending := none }

/-- The usage line after some arguments: the full one when none was given. -/
def usageAfter (p : Progress) (extra : List Switch) : String :=
  if p.taken.isEmpty && extra.isEmpty then cmd.usage prog
  else cmd.usageWith prog (p.switches ++ extra.filter fun s => !p.has (.named s))

/-- An argument nothing expects. -/
def unexpected (arg : String) (tips : List String) : Reading :=
  refuse { message := "unexpected argument " ++ quote arg ++ " found", tips,
           usage := some (cmd.usage prog) }

/-- The tip for passing an option-like text as the positional argument. -/
def asValueTip (arg : String) : String :=
  "to pass " ++ quote arg ++ " as a value, use " ++ quote ("-- " ++ arg)

/-- The help switch every subcommand has. -/
def helpSwitch : Switch := { long := "help", help := "Print help" }

/-- Read a positional argument. -/
def readPositional (p : Progress) (arg : String) : Except Reading Progress :=
  if p.positionalRead then
    let _ := settleQuietly prog cmd p
    .error (unexpected prog cmd arg [])
  else do
    let p ← settle prog cmd p
    pure { p with pending := some ⟨.positional, [arg], false⟩, positionalRead := true }

/-- Read `--name` or `--name=value`. -/
def readLong (p : Progress) (name : String) (attached : Option String) :
    Except Reading Progress :=
  if name = "help" then
    match attached with
    | some v => .error (refuse {
        message := "unexpected value " ++ quote v ++ " for " ++ quote "--help" ++
          " found; no more were expected",
        usage := some (cmd.usageWith prog (p.switches ++ [helpSwitch])) })
    | none => do
      let _ ← settle prog cmd p
      .error (.show (cmd.helpText prog))
  else
    match cmd.switches.find? (·.long == name) with
    | some s =>
      if s.placeholder.isSome then do
        let p ← settle prog cmd p
        match attached with
        | some v => accept prog cmd p (.named s) [v]
        | none => pure { p with pending := some ⟨.named s, [], true⟩ }
      else
        match attached with
        | some v => .error (refuse {
            message := "unexpected value " ++ quote v ++ " for " ++ quote s.display ++
              " found; no more were expected",
            usage := some (cmd.usageWith prog
              (if p.switches.contains s then p.switches else p.switches ++ [s])) })
        | none => do
          let p ← settle prog cmd p
          accept prog cmd p (.named s) []
    | none =>
      let p := settleQuietly prog cmd p
      let longs := cmd.switches.map Switch.long ++ ["help"]
      let arg := "--" ++ name
      match (similar name longs).getLast? with
      | some n =>
        let s := ((cmd.switches.find? (·.long == n)).getD helpSwitch)
        .error (refuse {
          message := "unexpected argument " ++ quote arg ++ " found",
          tips := ["a similar argument exists: " ++ quote ("--" ++ n)],
          usage := some (usageAfter prog cmd p [s]) })
      | none =>
        .error (refuse {
          message := "unexpected argument " ++ quote arg ++ " found",
          tips := [asValueTip arg],
          usage := some (usageAfter prog cmd p []) })

/-- Split `name=value` at its first `=`. -/
def splitAttached (cs : List Char) : String × Option String :=
  match cs.span (· != '=') with
  | (name, []) => (String.ofList name, none)
  | (name, _ :: value) => (String.ofList name, some (String.ofList value))

/-- Read one argument. -/
def readArg (p : Progress) (arg : String) : Except Reading Progress :=
  if p.trailing then readPositional prog cmd p arg
  else
    match arg.toList with
    | ['-', '-'] => do
      let p ← settle prog cmd p
      pure { p with trailing := true }
    | '-' :: '-' :: rest =>
      let (name, attached) := splitAttached rest
      readLong prog cmd p name attached
    | '-' :: c :: _ =>
      if c = 'h' then do
        let _ ← settle prog cmd p
        .error (.show (cmd.helpText prog))
      else
        let _ := settleQuietly prog cmd p
        let short := String.ofList ['-', c]
        .error (unexpected prog cmd short [asValueTip short])
    | _ =>
      match p.pending with
      | some q =>
        if q.waiting then .ok { p with pending := some ⟨q.slot, [arg], false⟩ }
        else readPositional prog cmd p arg
      | none => readPositional prog cmd p arg

/-- Read all arguments of a subcommand. -/
def readArgs (p : Progress) : List String → Except Reading Progress
  | [] => settle prog cmd p
  | a :: rest => do
    let p ← readArg prog cmd p a
    readArgs p rest

/-- Read a subcommand's arguments into an invocation. -/
def readCommand (args : List String) : Reading :=
  match readArgs prog cmd {} args with
  | .error r => r
  | .ok p =>
    match p.taken.find? (·.1 == .positional) with
    | none => refuse {
        message := "the following required arguments were not provided:\n  " ++ cmd.placeholder,
        usage := some (cmd.usageWith prog p.switches) }
    | some (_, url) =>
      .run { command := cmd.name, positional := url,
             named := p.taken.filterMap fun t => match t.1 with
               | .named s => some (s.long, t.2)
               | .positional => none }

end Reading

/-! ## The program -/

/-- The commands the `help` subcommand can show. -/
inductive HelpTarget where
  | program
  | command (c : Subcommand)
  | helpCommand

/-- Follow the names given to the `help` subcommand. -/
def helpFor (prog : Program) : HelpTarget → List String → Reading
  | .program, [] => .show prog.helpText
  | .command c, [] => .show (c.helpText prog)
  | .helpCommand, [] => .show prog.helpHelpText
  | .program, n :: rest =>
    match prog.command? n with
    | some c => helpFor prog (.command c) rest
    | none =>
      if n = "help" then helpFor prog .helpCommand rest
      else refuse { message := "unrecognized subcommand " ++ quote n, usage := some prog.usage }
  | .command c, n :: _ =>
    refuse { message := "unrecognized subcommand " ++ quote n, usage := some (c.usage prog) }
  | .helpCommand, n :: _ =>
    refuse { message := "unrecognized subcommand " ++ quote n, usage := some prog.helpUsage }

/-- The tip naming similar subcommands. -/
def similarCommandsTip (names : List String) : String :=
  match names with
  | [n] => "a similar subcommand exists: " ++ quote n
  | ns => "some similar subcommands exist: " ++ ", ".intercalate (ns.map quote)

/-- The tip for an unknown option of the program that a subcommand named later has. -/
def subcommandOptionTip (prog : Program) (name : String) (later : List String) : Option String :=
  let found := prog.commands.filterMap fun c =>
    match (similar name (c.switches.map Switch.long ++ ["help"])).getLast?, later.idxOf? c.name with
    | some n, some i => some (i, c.name ++ " --" ++ n)
    | _, _ => none
  match found.foldl (fun best x => match best with
      | some b => if x.1 < b.1 then some x else some b
      | none => some x) none with
  | some (_, t) => some (quote t ++ " exists")
  | none => none

/-- Read an option of the program. -/
def readProgramLong (prog : Program) (name : String) (attached : Option String)
    (later : List String) : Reading :=
  if name = "help" ∨ name = "version" then
    match attached with
    | some v => refuse {
        message := "unexpected value " ++ quote v ++ " for " ++ quote ("--" ++ name) ++
          " found; no more were expected",
        usage := some (prog.name ++ " --" ++ name ++ " <COMMAND>") }
    | none => if name = "help" then .show prog.helpText else .show prog.versionText
  else
    let arg := "--" ++ name
    match (similar name ["help", "version"]).getLast? with
    | some n => refuse {
        message := "unexpected argument " ++ quote arg ++ " found",
        tips := ["a similar argument exists: " ++ quote ("--" ++ n)],
        usage := some (prog.name ++ " --" ++ n ++ " <COMMAND>") }
    | none => refuse {
        message := "unexpected argument " ++ quote arg ++ " found",
        tips := (subcommandOptionTip prog name later).toList,
        usage := some prog.usage }

/-- Read the program's arguments up to its subcommand. -/
def readProgram (prog : Program) (trailing : Bool) : List String → Reading
  | [] => .refuse prog.helpText
  | a :: rest =>
    if !trailing && a = "help" then helpFor prog .program rest
    else if let some c := (if trailing then none else prog.command? a) then
      readCommand prog c rest
    else if !trailing && a = "--" then readProgram prog true rest
    else
      match trailing, a.toList with
      | false, '-' :: '-' :: cs =>
        let (name, attached) := splitAttached cs
        readProgramLong prog name attached rest
      | false, '-' :: c :: _ =>
        if c = 'h' then .show prog.helpText
        else if c = 'V' then .show prog.versionText
        else refuse { message := "unexpected argument " ++ quote (String.ofList ['-', c]) ++ " found",
                      usage := some prog.usage }
      | _, _ =>
        if trailing && prog.commandNames.contains a then
          refuse { message := "unexpected argument " ++ quote "--" ++ " found",
                   tips := ["subcommand " ++ quote a ++ " exists; to use it, remove the " ++
                     quote "--" ++ " before it"],
                   usage := some prog.usage }
        else
          match similar a prog.commandNames with
          | [] => refuse { message := "unrecognized subcommand " ++ quote a, usage := some prog.usage }
          | ns => refuse { message := "unrecognized subcommand " ++ quote a,
                           tips := [similarCommandsTip ns], usage := some prog.usage }

/-- Read a command line: the arguments after the program name. -/
def Program.readCommandLine (prog : Program) (args : List String) : Reading :=
  readProgram prog false args

end Cli

end QueryCompiler
