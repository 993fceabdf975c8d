import RegistryAuth.Credential.Identity
import RegistryAuth.Json.Parser
import RegistryAuth.Seconds
import RegistryAuth.SystemError
import RegistryAuth.Text.Blank
import RegistryAuth.Text.Utf8

/-!
# Credential helpers

A credential helper is a program that keeps credentials.  It is started with the one
argument `get`, reads the address of a server and writes a JSON object with a name, a
secret and an address.  `HelperRun.credentials` reads the outcome of such a run;
`HelperSource` is anything that hands helpers out by name, so that a run can also be
replaced by a table.
-/

namespace RegistryAuth

/-- What a helper hands out for a server. -/
structure HelperCredentials where
  username : String
  secret : String
  serverUrl : String
  deriving Repr, DecidableEq

/-- Why a helper hands nothing out. -/
inductive HelperFault where
  | programMissing (e : SystemError)
  | timedOut (limit : Option Seconds)
  | system (e : SystemError)
  | unknownServer (text : String)
  | failed (text : String)
  | malformed (e : Json.ParseError)
  | noSecret
  deriving Repr, DecidableEq

/-- The words for the fault. -/
def HelperFault.message : HelperFault → String
  | .programMissing e => "program not found: " ++ e.message
  | .timedOut limit => "timed out after " ++ Seconds.limitText limit ++ "s"
  | .system e => e.message
  | .unknownServer text => text
  | .failed text => text
  | .malformed e => "malformed output: " ++ e.message
  | .noSecret => "malformed output: missing Secret"

/-- Whether the fault is that the helper does not know the server. -/
def HelperFault.isUnknownServer : HelperFault → Bool
  | .unknownServer _ => true
  | _ => false

/-- A helper and why it hands nothing out. -/
structure HelperError where
  helper : String
  fault : HelperFault
  deriving Repr, DecidableEq

/-- The words for the failure. -/
def HelperError.message (e : HelperError) : String := e.helper ++ ": " ++ e.fault.message

/-- How asking a helper fails: with an error of the helper, or in a way that is none of its
own.  Its output holds a number that is too long, what it has written is not in UTF-8, its
path holds a zero character, or the time it is given is more than can be waited for. -/
inductive HelperFailure where
  | helper (e : HelperError)
  | number (e : NumberError)
  | output (e : Text.DecodeError)
  | nulInPath
  | limit (text : String)
  deriving Repr, DecidableEq

/-- The words for the failure. -/
def HelperFailure.message : HelperFailure → String
  | .helper e => e.message
  | .number e => e.message
  | .output e => e.message
  | .nulInPath => "embedded null byte"
  | .limit text => text

/-- How a program comes to its end: it has `finished` and written texts, or what it has
written is no text; it takes too long, or its time limit cannot be kept; or it cannot be
started, because the system refuses or its path holds a zero character. -/
inductive HelperRun where
  | finished (stdout stderr : String) (status : Int)
  | garbled (e : Text.DecodeError)
  | timedOut
  | limitRefused (text : String)
  | failed (e : SystemError)
  | nulInPath
  deriving Repr, DecidableEq

/-- A program to be started: its arguments, its input and the time it is given. -/
structure ProgramCall where
  program : String
  arguments : List String
  input : String
  limit : Option Seconds
  deriving Repr, DecidableEq

namespace Helper

/-- The directory of the helpers. -/
def directory : String := "/regsec-internal"

/-- What the names of helper programs begin with. -/
def namePrefix : String := "docker-credential-"

/-- The program for a helper. -/
def program (name dir : String) : String :=
  let file := namePrefix ++ name
  if dir.isEmpty || dir.toList.getLast? = some '/' then dir ++ file else dir ++ "/" ++ file

/-- What a helper says of a server that it does not know. -/
def unknownServerText : String := "credentials not found in native keychain"

/-- The name under which a secret is a token. -/
def tokenName : String := "<token>"

/-- The call that asks a helper program for a server's credentials. -/
def call (program : String) (limit : Option Seconds) (server : String) : ProgramCall :=
  ⟨program, ["get"], server, limit⟩

/-- The text of a member; empty where the member says nothing. -/
def memberText (v : Json) (key : String) : String :=
  match v.get? key with
  | some m => if m.isTruthy then m.text.shown else ""
  | none => ""

/-- Reads what a helper wrote. -/
def readOutput (program out : String) : Except HelperFailure HelperCredentials :=
  let fail (f : HelperFault) : Except HelperFailure HelperCredentials :=
    .error (.helper ⟨program, f⟩)
  match Json.parse out with
  | .error (.number e) => .error (.number e)
  | .error e => fail (.malformed e)
  | .ok v =>
    match v.get? "Secret" with
    | some (.str secret) =>
      .ok ⟨memberText v "Username", secret.shown, memberText v "ServerURL"⟩
    | _ => fail .noSecret

/-- The text that a failed run leaves: its output, else its complaints, else its exit
status. -/
def failureText (stdout stderr : String) (status : Int) : String :=
  if !(Text.trimString stdout).isEmpty then Text.trimString stdout
  else if !(Text.trimString stderr).isEmpty then Text.trimString stderr
  else "exit status " ++ String.ofList (intText status)

/-- The fault of a run that failed with some text. -/
def failureFault (text : String) : HelperFault :=
  if text = unknownServerText then .unknownServer text else .failed text

end Helper

/-- The credentials that a run of a helper program hands out. -/
def HelperRun.credentials (program : String) (limit : Option Seconds) :
    HelperRun → Except HelperFailure HelperCredentials
  | .failed e =>
    .error (.helper ⟨program, if e.isMissing then .programMissing e else .system e⟩)
  | .nulInPath => .error .nulInPath
  | .timedOut => .error (.helper ⟨program, .timedOut limit⟩)
  | .limitRefused text => .error (.limit text)
  | .garbled e => .error (.output e)
  | .finished stdout stderr status =>
    if status = 0 then Helper.readOutput program (Text.trimString stdout)
    else .error (.helper ⟨program, Helper.failureFault (Helper.failureText stdout stderr status)⟩)

/-- The identity that credentials of a helper stand for. -/
def HelperCredentials.identity (c : HelperCredentials) (server : String) : Identity :=
  if c.username = Helper.tokenName then .token c.secret server
  else .password c.username c.secret server

/-- Something that hands out helpers by name and is changed by being asked: `make`
finds the helper, `get` asks it for the credentials of a server. -/
structure HelperSource (σ : Type) where
  make : String → σ → σ
  get : String → String → σ → Except HelperFailure HelperCredentials × σ

/-- Something that starts programs and is changed by it. -/
abbrev Launcher (σ : Type) := ProgramCall → σ → HelperRun × σ

/-- Asks one program. -/
def Launcher.ask {σ : Type} (launch : Launcher σ) (program : String) (limit : Option Seconds)
    (server : String) (s : σ) : Except HelperFailure HelperCredentials × σ :=
  let (run, s) := launch (Helper.call program limit server) s
  (run.credentials program limit, s)

/-- Helpers that are programs in a directory. -/
def HelperSource.programs {σ : Type} (launch : Launcher σ) (limit : Option Seconds)
    (dir : String) : HelperSource σ where
  make _ s := s
  get name server s := launch.ask (Helper.program name dir) limit server s

end RegistryAuth
