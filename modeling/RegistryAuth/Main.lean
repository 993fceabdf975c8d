import RegistryAuth.Command.Run

/-!
# The program

Reads a command line, the variables of the environment and the files that the command and
its configuration name, carries the command out, and prints what it shows.  The program
starts no other programs and has no network of its own: a helper is missing, and a request
finds no connection.
-/

namespace RegistryAuth
namespace Program

/-- The width of the console. -/
def consoleWidth : Nat := 80

/-- What stands at a path. -/
def stateAt (path : String) : IO FileState := do
  match ← (IO.FS.readBinFile path).toBaseIO with
  | .ok bytes => return .file bytes.toList
  | .error (.inappropriateType _ 21 _) => return .directory
  | .error (.inappropriateType ..) => return .blocked
  | .error (.invalidArgument ..) => return .tooLong
  | .error _ => return .missing

/-- What stands at some paths; nothing stands at any other. -/
def filesAt (paths : List String) : IO Files := do
  let states ← (paths.filter fun path => !Files.hasNul path).mapM fun path =>
    return (path, ← stateAt path)
  return ⟨fun path => (states.lookup path).getD .missing⟩

/-- A machine without programs and network. -/
def machineOf (environment : Environment) (files : Files) : Machine Unit Unit where
  environment := environment
  files := files
  certificates := .overFiles files
  launcher call s := (.failed (.missing (some call.program)), s)
  peer :=
    { send := fun _ s => (.error ⟨.connect, "there is no network"⟩, s)
      close := fun s => s }

/-- The environment, as far as it is read. -/
def readEnvironment : IO Environment := do
  let path ← IO.getEnv SecurityConfig.caVariable
  return fun name => if name = SecurityConfig.caVariable then path else none

/-- Carries a command out and prints what it shows. -/
def carryOut (command : Command) : IO UInt32 := do
  let environment ← readEnvironment
  let config := SecurityConfig.plainPath command.config
  let first := machineOf environment (← filesAt [config])
  let named := match Command.configuration first command.config with
    | .ok cfg => Command.namedFiles cfg
    | .error _ => []
  let machine := machineOf environment (← filesAt (config :: named))
  let run := command.run machine () ()
  match run.lines consoleWidth with
  | .ok lines => lines.forM fun line => IO.println line
  | .error e => IO.eprintln e.message
  return (run.exitCode consoleWidth).toUInt32

end Program
end RegistryAuth

/-- Carries out what the command line asks for. -/
def main (args : List String) : IO UInt32 := do
  match RegistryAuth.Invocation.ofArguments args with
  | .error e =>
    IO.eprintln e.message
    return 2
  | .ok .help =>
    IO.println RegistryAuth.Command.help
    return 0
  | .ok (.command c) => RegistryAuth.Program.carryOut c
