import ConfigMigration.CommandLine.Options
import ConfigMigration.Log.Format
import ConfigMigration.Settings.Flags

/-!
# Invocations

What a command line asks for: a command with its arguments, and how to report events on the way.
-/

namespace ConfigMigration.CommandLine

/-- A command. -/
inductive Command where
  /-- List the steps. -/
  | steps
  /-- Show the chain between two versions. -/
  | chain (start goal : Version)
  /-- Migrate a target. -/
  | migrate (request : MigrateRequest) (flags : StoreFlags)
deriving DecidableEq, Repr

/-- The name of a command. -/
def Command.name : Command → String
  | steps => "steps"
  | chain .. => "chain"
  | migrate .. => "migrate"

/-- What a command line asks for. -/
structure Invocation where
  /-- The command. -/
  command : Command
  /-- Which events to report. -/
  logLevel : String
  /-- How to report them. -/
  logFormat : LogFormat
deriving DecidableEq, Repr

namespace Invocation

/-! ### The known commands -/

/-- The options about the log, which may stand before and behind the name of a command. -/
def logOptions : List OptionSpec :=
  [⟨"log-level", .text⟩, ⟨"log-format", .oneOf ["text", "json"]⟩]

/-- The options about versions. -/
def versionOptions : List OptionSpec :=
  [⟨"from-version", .text⟩, ⟨"to-version", .text⟩]

/-- What may stand before the name of a command. -/
def programSpec : CommandSpec where
  options := logOptions
  commands := ["migrate", "steps", "chain", "help"]
  hasVersion := true

/-- What may stand behind the name of a command. -/
def commandSpec (name : String) : CommandSpec where
  options :=
    if name = "migrate" then
      [⟨"from-target", .text⟩, ⟨"to-target", .text⟩] ++ versionOptions ++
        [⟨"config", .path⟩, ⟨"address", .text⟩, ⟨"ca-cert", .path⟩, ⟨"client-cert", .path⟩, ⟨"client-key", .path⟩,
          ⟨"no-tls", .nothing⟩, ⟨"timeout-secs", .seconds⟩] ++ logOptions
    else if name = "chain" then versionOptions ++ logOptions
    else logOptions

/-! ### Arguments -/

/-- The options that are given, with their values. -/
abbrev Given := List (String × String)

/-- Whether an option is given. -/
def has (given : Given) (name : String) : Bool := (given.lookup name).isSome

/-- The value of an option that must not be missing. -/
def required (given : Given) (name : String) : Except UsageError String :=
  match given.lookup name with
  | some value => .ok value
  | none => .error .missing

/-- The versions. -/
def versions (given : Given) : Except UsageError (Version × Version) :=
  return (⟨← required given "from-version"⟩, ⟨← required given "to-version"⟩)

/-- The flags about the store. -/
def storeFlags (given : Given) : StoreFlags where
  config := given.lookup "config"
  address := given.lookup "address"
  caCert := given.lookup "ca-cert"
  clientCert := given.lookup "client-cert"
  clientKey := given.lookup "client-key"
  noTls := has given "no-tls"
  timeoutSecs := given.lookup "timeout-secs" >>= seconds?

/-- Checks that the options about credentials go together: none of them with the switch against credentials, and the
certificate of the client only with its key. -/
def checkCredentials (given : Given) : Except UsageError Unit :=
  if has given "no-tls" && ["ca-cert", "client-cert", "client-key"].any (has given) then .error .conflict
  else if has given "client-cert" != has given "client-key" then .error .missing
  else .ok ()

/-- The command of a name and its options. -/
def commandOf (name : String) (given : Given) : Except UsageError Command := do
  if name = "migrate" then
    checkCredentials given
    let (start, goal) ← versions given
    let targets : Targets := ⟨← required given "from-target", ← required given "to-target"⟩
    return .migrate ⟨targets, start, goal⟩ (storeFlags given)
  else if name = "chain" then
    let (start, goal) ← versions given
    return .chain start goal
  else return .steps

/-! ### Command lines -/

/-- The outcome of asking for help on something: there is help on a command, and on help. -/
def helpOn : List String → UsageError
  | [] => .help
  | [name] => if name ∈ programSpec.commands then .help else .unknownCommand
  | _ => .unknownCommand

/-- What the words of a command line ask for. -/
def parse (words : List String) : Except UsageError Invocation := do
  let (front, found) ← Progress.readWords programSpec {} words
  match found with
  | none =>
    let front ← front.settle
    .error (if front.given.isEmpty then .nothingGiven else .noCommand)
  | some ("help", topics) => .error (helpOn topics)
  | some (name, rest) =>
    let (back, _) ← Progress.readWords (commandSpec name) {} rest
    let back ← back.settle
    let chosen ← commandOf name back.given
    let front ← front.settle
    let value (option standard : String) : String :=
      ((back.given.lookup option).or (front.given.lookup option)).getD standard
    return { command := chosen
             logLevel := value "log-level" "info"
             logFormat := if value "log-format" "text" = "json" then .json else .text }

end Invocation

end ConfigMigration.CommandLine
