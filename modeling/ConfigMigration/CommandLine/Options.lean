/-!
# Options of a command line

A command line is read word by word.  An option that takes a value is settled late: when the next option comes, or
when the words of its command end.  So a fault in a later word may be met before a fault in the value of an earlier
option.
-/

namespace ConfigMigration.CommandLine

/-- Why a command line is not carried out. -/
inductive UsageError where
  /-- Help is asked for. -/
  | help
  /-- The version of the program is asked for. -/
  | version
  /-- There is nothing on the command line. -/
  | nothingGiven
  /-- There is no command. -/
  | noCommand
  /-- A word is no command. -/
  | unknownCommand
  /-- A word or an option is not known. -/
  | unknownWord
  /-- The value of an option is missing, or is none of the possible ones. -/
  | invalidValue
  /-- The value of an option does not have the form that is asked for. -/
  | malformedValue
  /-- A switch is given a value. -/
  | unwantedValue
  /-- An option is given twice, or does not go with another one. -/
  | conflict
  /-- An option is missing. -/
  | missing
deriving DecidableEq, Repr

/-- The seconds that a text gives: a positive number of 64 bits. -/
def seconds? (s : String) : Option UInt64 := do
  let digits := match s.toList with
    | '+' :: rest => rest
    | cs => cs
  guard (!digits.isEmpty && digits.all Char.isDigit)
  let n : Nat := digits.foldl (fun n c => n * 10 + (c.toNat - '0'.toNat)) 0
  guard (0 < n ∧ n < UInt64.size)
  return n.toUInt64

/-- What an option takes. -/
inductive Parameter where
  /-- Nothing: the option is a switch. -/
  | nothing
  /-- Any text. -/
  | text
  /-- The path of a file, which must not be empty. -/
  | path
  /-- One of several words. -/
  | oneOf (words : List String)
  /-- A positive number of seconds. -/
  | seconds
deriving DecidableEq, Repr

/-- Checks a value of an option. -/
def Parameter.check (p : Parameter) (value : String) : Except UsageError Unit :=
  match p with
  | nothing | text => .ok ()
  | path => if value.isEmpty then .error .invalidValue else .ok ()
  | oneOf words => if value ∈ words then .ok () else .error .invalidValue
  | seconds => if (seconds? value).isSome then .ok () else .error .malformedValue

/-- An option. -/
structure OptionSpec where
  /-- The name, without the dashes. -/
  name : String
  /-- What it takes. -/
  parameter : Parameter
deriving DecidableEq, Repr

/-- What may stand behind the name of a command. -/
structure CommandSpec where
  /-- The options. -/
  options : List OptionSpec
  /-- The commands below it. -/
  commands : List String := []
  /-- Whether it tells its version. -/
  hasVersion : Bool := false

/-! ### Words -/

/-- The form of a word. -/
inductive Word where
  /-- Two dashes and a name, perhaps with a value behind an equals sign. -/
  | long (name : String) (value : Option String)
  /-- One dash and letters. -/
  | short (first : Char)
  /-- Neither. -/
  | plain (word : String)
deriving DecidableEq, Repr

/-- The form of a word. -/
def Word.ofString (s : String) : Word :=
  match s.toList with
  | '-' :: '-' :: rest =>
    let name := rest.takeWhile (· ≠ '=')
    .long (String.ofList name)
      (if name.length = rest.length then none else some (String.ofList (rest.drop (name.length + 1))))
  | '-' :: c :: _ => .short c
  | _ => .plain s

/-! ### Reading -/

/-- How far the words of a command have been read. -/
structure Progress where
  /-- The options that are settled, with their values. -/
  given : List (String × String) := []
  /-- The option still to be settled, with its value if that has come. -/
  pending : Option (OptionSpec × Option String) := none

namespace Progress

/-- Whether the next word may be the value of an option. -/
def awaitsValue (p : Progress) : Bool :=
  match p.pending with
  | some (_, none) => true
  | _ => false

/-- Adds an option with its value. -/
def add (p : Progress) (o : OptionSpec) (value : String) : Except UsageError Progress :=
  if (p.given.lookup o.name).isSome then .error .conflict
  else do
    o.parameter.check value
    return { p with given := p.given ++ [(o.name, value)] }

/-- Settles the option that is still to be settled. -/
def settle (p : Progress) : Except UsageError Progress :=
  match p.pending with
  | none => .ok p
  | some (_, none) => .error .invalidValue
  | some (o, some value) => { p with pending := none }.add o value

/-- Reads an option. -/
def readOption (p : Progress) (o : OptionSpec) (value : Option String) : Except UsageError Progress :=
  match o.parameter, value with
  | .nothing, some _ => .error .unwantedValue
  | .nothing, none => do (← p.settle).add o ""
  | _, some value => do (← p.settle).add o value
  | _, none => do return { ← p.settle with pending := some (o, none) }

/-- Reads a word that asks for help or for the version, which is answered when earlier options are settled. -/
def answer (p : Progress) (wish : UsageError) (value : Option String) : Except UsageError Progress :=
  if value.isSome then .error .unwantedValue
  else do
    discard p.settle
    .error wish

/-- The fault of a word that is no option and no value. -/
def strayWord (c : CommandSpec) : UsageError :=
  if c.commands.isEmpty then .unknownWord else .unknownCommand

/-- Reads a word. -/
def readWord (c : CommandSpec) (p : Progress) : Word → Except UsageError Progress
  | .long name value =>
    match c.options.find? (·.name = name) with
    | some o => p.readOption o value
    | none =>
      if name = "help" then p.answer .help value
      else if name = "version" ∧ c.hasVersion then p.answer .version value
      else .error .unknownWord
  | .short letter =>
    if letter = 'h' then p.answer .help none
    else if letter = 'V' ∧ c.hasVersion then p.answer .version none
    else .error .unknownWord
  | .plain word =>
    match p.pending with
    | some (o, none) => .ok { p with pending := some (o, some word) }
    | _ => .error (strayWord c)

/-- Reads words up to the name of a command below: what was read, the name, and the words behind it.  Behind two
dashes no word has a meaning. -/
def readWords (c : CommandSpec) (p : Progress) :
    List String → Except UsageError (Progress × Option (String × List String))
  | [] => .ok (p, none)
  | word :: rest =>
    if !p.awaitsValue && word ∈ c.commands then .ok (p, some (word, rest))
    else if word = "--" then
      match rest with
      | [] => .ok (p, none)
      | stray :: _ => .error (if stray ∈ c.commands then .unknownWord else strayWord c)
    else do readWords c (← p.readWord c (.ofString word)) rest

end Progress

end ConfigMigration.CommandLine
