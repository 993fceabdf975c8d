import RegistryAuth.Command.Arguments
import RegistryAuth.Number.Reading
import RegistryAuth.Seconds

/-!
# Commands

What the program can be asked to do: show a configuration, say how a registry would be
reached with it, or reach the registry.  `Invocation.ofArguments` reads a command line.
A command line that asks for help is answered with help, whatever else is wrong with its
words and values, as long as its options can be told.
-/

namespace RegistryAuth

/-- A registry, the repository that is meant, the configuration to use, and how long a
helper may take. -/
structure Target where
  config : String
  address : String
  repo : String
  helperTimeout : Option Seconds
  deriving Repr, DecidableEq

/-- What the program is asked to do. -/
inductive Command where
  | showConfig (config : String)
  | resolve (target : Target)
  | ping (target : Target) (timeout : Seconds) (insecure : Bool)
  deriving Repr, DecidableEq

/-- What a command line asks for. -/
inductive Invocation where
  | help
  | command (c : Command)
  deriving Repr, DecidableEq

namespace Command

/-- The option that asks for help. -/
def helpOption : String := "--help"

/-- The option that names the repository. -/
def repoOption : String := "--repo"

/-- The option for how long a helper may take. -/
def helperTimeoutOption : String := "--helper-timeout"

/-- The option for how long a request may take. -/
def timeoutOption : String := "--timeout"

/-- The option that turns the verification of certificates off. -/
def insecureOption : String := "--insecure"

/-- The repository that is meant if none is named. -/
def defaultRepo : String := "library/busybox"

/-- The path of the configuration that a command uses. -/
def config : Command → String
  | .showConfig path => path
  | .resolve target => target.config
  | .ping target _ _ => target.config

/-- The options in front of a command. -/
def mainOptions : OptionTable := ⟨[], ["--verbose", helpOption], [('v', "--verbose")]⟩

/-- The options for showing a configuration. -/
def showConfigOptions : OptionTable := ⟨[], [helpOption], []⟩

/-- The options for a target. -/
def resolveOptions : OptionTable := ⟨[repoOption, helperTimeoutOption], [helpOption], []⟩

/-- The options for reaching a target. -/
def pingOptions : OptionTable :=
  ⟨[repoOption, timeoutOption, helperTimeoutOption], [insecureOption, helpOption], []⟩

/-- The number of seconds that an option gives. -/
def seconds? (a : Arguments) (name : String) : Except UsageError (Option Seconds) :=
  match a.value? name with
  | none => .ok none
  | some text =>
    match Number.real text.toList with
    | .error _ => .error (.notNumber name text)
    | .ok d => .ok (some (.real d))

/-- The only word of a command line. -/
def oneWord (name : String) : List String → Except UsageError String
  | [] => .error (.missingWord name)
  | [word] => .ok word
  | _ :: word :: _ => .error (.needlessWord word)

/-- The two words of a command line. -/
def twoWords (first second : String) : List String → Except UsageError (String × String)
  | [] => .error (.missingWord first)
  | [_] => .error (.missingWord second)
  | [word, other] => .ok (word, other)
  | _ :: _ :: word :: _ => .error (.needlessWord word)

/-- The target that a command line names. -/
def target (a : Arguments) : Except UsageError Target := do
  let helperTimeout ← seconds? a helperTimeoutOption
  let (config, address) ← twoWords "CONFIG" "ADDR" a.words
  return ⟨config, address, (a.value? repoOption).getD defaultRepo, helperTimeout⟩

/-- How long a request may take if nothing is said. -/
def defaultTimeout : Seconds := .real (.ofInt 30)

/-- The command that shows a configuration. -/
def ofShowConfig (a : Arguments) : Except UsageError Command :=
  (oneWord "CONFIG" a.words).map .showConfig

/-- The command that says how a target would be reached. -/
def ofResolve (a : Arguments) : Except UsageError Command := (target a).map .resolve

/-- The command that reaches a target. -/
def ofPing (a : Arguments) : Except UsageError Command := do
  let timeout ← seconds? a timeoutOption
  let t ← target a
  return .ping t (timeout.getD defaultTimeout) (a.has insecureOption)

/-- How the program is called. -/
def help : String := String.intercalate "\n"
  ["registry-auth [-v | --verbose] COMMAND", "",
    "  show-config CONFIG         Show a security config",
    "  resolve CONFIG ADDR        Show which transport and identity would be used for ADDR",
    "  ping CONFIG ADDR           Call the registry at ADDR", "",
    "  --repo REPO                The repository that is meant",
    "  --helper-timeout SECONDS   How long a credential helper may take",
    "  --timeout SECONDS          How long a request may take",
    "  --insecure                 Do not verify certificates"]

end Command

namespace Invocation

/-- What the arguments of a command ask for. -/
def ofCommand (table : OptionTable) (make : Arguments → Except UsageError Command)
    (args : List String) : Except UsageError Invocation := do
  let a ← Arguments.read table true args
  if a.has Command.helpOption then return .help
  return .command (← make a)

/-- What is asked for where no command has the name: help, if the name and what follows
are options that ask for it. -/
def ofUnknown (name : String) (args : List String) : Except UsageError Invocation := do
  let a ← Arguments.read Command.mainOptions false (name :: args)
  if a.has Command.helpOption then return .help
  throw (.unknownCommand name)

/-- What a command and its arguments ask for. -/
def ofWords : List String → Except UsageError Invocation
  | [] => .error .missingCommand
  | "show-config" :: args => ofCommand Command.showConfigOptions Command.ofShowConfig args
  | "resolve" :: args => ofCommand Command.resolveOptions Command.ofResolve args
  | "ping" :: args => ofCommand Command.pingOptions Command.ofPing args
  | name :: args => ofUnknown name args

/-- What a command line asks for. -/
def ofArguments (args : List String) : Except UsageError Invocation := do
  let a ← Arguments.read Command.mainOptions false args
  if a.has Command.helpOption then return .help
  ofWords a.words

end Invocation
end RegistryAuth
