import ConfigMigration.CommandLine.Execution
import ConfigMigration.Log.Filter

/-!
# The program

What the program writes for a command line, and how it ends.
-/

namespace ConfigMigration.CommandLine

/-- Something that the program writes to its standard output. -/
inductive Output where
  /-- A line of text. -/
  | line (text : String)
  /-- An event. -/
  | event (event : Event)
deriving DecidableEq, Repr

/-- A run of the program. -/
structure ProgramRun (ν : Type) where
  /-- The exit code. -/
  exitCode : UInt32
  /-- What is written to the standard output. -/
  output : List Output := []
  /-- How events are written. -/
  format : LogFormat := .text
  /-- What is written to the standard error. -/
  complaint : Option String := none
  /-- The network behind the run. -/
  network : ν

namespace ProgramRun

variable {ν : Type}

/-- The name and the version of the program. -/
def versionLine : String := "cfgmig 0.1.0"

/-- How the program is used. -/
def usage : List String :=
  ["Migrate gNMI configuration trees between schema versions",
   "",
   "Usage: cfgmig [--log-level <filter>] [--log-format <text|json>] <command>",
   "",
   "Commands:",
   "  migrate --from-target <t> --to-target <t> --from-version <v> --to-version <v>",
   "          [--config <file>] [--address <url>] [--ca-cert <file>]",
   "          [--client-cert <file> --client-key <file>] [--no-tls] [--timeout-secs <n>]",
   "  steps",
   "  chain --from-version <v> --to-version <v>",
   "  help [<command>]"]

/-- The complaint about a command line. -/
def complaintOf : UsageError → String
  | .help | .version => ""
  | .nothingGiven | .noCommand => "cfgmig: a command is needed, try --help"
  | .unknownCommand => "cfgmig: there is no such command"
  | .unknownWord => "cfgmig: unexpected argument"
  | .invalidValue => "cfgmig: the value of an option is missing or not possible"
  | .malformedValue => "cfgmig: the value of an option is malformed"
  | .unwantedValue => "cfgmig: a switch takes no value"
  | .conflict => "cfgmig: options do not go together"
  | .missing => "cfgmig: an option is missing"

/-- The run on a command line that is not carried out. -/
def ofUsageError (network : ν) : UsageError → ProgramRun ν
  | .help => { exitCode := 0, output := usage.map .line, network }
  | .version => { exitCode := 0, output := [.line versionLine], network }
  | e => { exitCode := 2, complaint := some (complaintOf e), network }

/-- The filter of the events: the text of the environment if it is a filter, and otherwise the one of the command
line.  A text that cannot be cut into directives is not passed over. -/
def filterOf (environment : Option String) (level : String) : Except FilterFault LogFilter :=
  match environment.map LogFilter.parse with
  | some (.ok filter) => .ok filter
  | some (.error .insideCharacter) => .error .insideCharacter
  | some (.error .malformed) | none => LogFilter.parse level

/-- The event that ends a failed run. -/
def failureEvent (f : Failure) : Event where
  level := .error
  component := .commandLine
  message := "cfgmig failed"
  fields := [("error", .display f.text)]

variable [Network ν]

/-- Carries out a command and lets the events through that a filter passes. -/
def ofInvocation (files : Files) (network : ν) (filter : LogFilter) (i : Invocation) : ProgramRun ν :=
  let x := Execution.run files network i.command
  let reported (events : List Event) : List Output := (events.filter filter.passes).map .event
  match x.result with
  | .ok lines =>
    { exitCode := 0, output := reported x.events ++ lines.map .line, format := i.logFormat, network := x.network }
  | .error e =>
    { exitCode := 1, output := reported (x.events ++ [failureEvent e]), format := i.logFormat, network := x.network }

/-- The run of the program on the words of its command line. -/
def run (files : Files) (network : ν) (environment : Option String) (words : List String) : ProgramRun ν :=
  match Invocation.parse words with
  | .error e => ofUsageError network e
  | .ok i =>
    match filterOf environment i.logLevel with
    | .error .malformed =>
      { exitCode := 1, network,
        complaint := some ("cfgmig: invalid log level '" ++ i.logLevel ++ "': invalid filter directive") }
    | .error .insideCharacter =>
      { exitCode := 101, network, complaint := some "cfgmig: a part of the log filter ends inside a character" }
    | .ok filter => ofInvocation files network filter i

end ProgramRun

end ConfigMigration.CommandLine
