import RegistryAuth.Command.Basic
import RegistryAuth.Config.Load
import RegistryAuth.Credential.Redaction
import RegistryAuth.Registry
import RegistryAuth.Report
import RegistryAuth.SendOption

/-!
# Running commands

`Command.run` carries a command out on a `Machine`: its environment, its files, its
programs and its network.  All that can be seen of a run is in the `CommandRun`: what is
shown at the end, what was sent, and the state of programs and network afterwards.

A failure that a user can do something about is shown, as a finding or in place of a
report.  Any other breaks the command off (`CommandError`): then nothing is printed where
reports are, and what the interpreter writes of the failure among the complaints is left
out here.  So what a run prints and the code that it exits with follow from its result
alone.
-/

namespace RegistryAuth

/-- What commands work with. -/
structure Machine (σ τ : Type) where
  environment : Environment
  files : Files
  certificates : TlsCourse
  launcher : Launcher σ
  peer : Peer τ

/-- What a command shows at its end: a report, the fields of a configuration, or why there
is no configuration. -/
inductive CommandOutput where
  | report (r : Report)
  | mapping (m : Mapping)
  | refusal (e : LoadError)

/-- Why a command breaks off. -/
inductive CommandError where
  | load (e : LoadError)
  | address (e : ReferenceError)
  | composition (e : CompositionError)
  | client (e : ClientError)
  | markup (e : MarkupError)
  deriving Repr, DecidableEq

/-- The words for the failure. -/
def CommandError.message : CommandError → String
  | .load e => e.message
  | .address e => e.message
  | .composition e => e.message
  | .client e => e.message
  | .markup e => e.message

/-- What became of a command. -/
structure CommandRun (σ τ : Type) where
  result : Except CommandError CommandOutput
  sendings : List Sending
  programs : σ
  network : τ

namespace CommandOutput

/-- What is written in front of why there is no configuration. -/
def refusalMark : String := "[bold red]error:[/bold red] "

/-- The lines that are printed on a console of `width` cells. -/
def render (width : Nat) : CommandOutput → Except MarkupError (List String)
  | .report r => r.render width
  | .mapping m => m.render width
  | .refusal e => (Markup.render (refusalMark ++ e.message).toList).map fun text =>
      (Wrap.lines width .fold text).map String.ofList

/-- The exit code of a command that shows this. -/
def exitCode : CommandOutput → Nat
  | .report r => r.exitCode
  | .mapping _ => 0
  | .refusal _ => 1

end CommandOutput

namespace CommandRun

/-- The lines that a command prints, or why it breaks off. -/
def lines {σ τ : Type} (width : Nat) (run : CommandRun σ τ) : Except CommandError (List String) :=
  match run.result with
  | .error e => .error e
  | .ok output => (output.render width).mapError .markup

/-- The exit code of a command: one that breaks off has failed. -/
def exitCode {σ τ : Type} (width : Nat) (run : CommandRun σ τ) : Nat :=
  match run.result with
  | .error _ => 1
  | .ok output =>
    match output.render width with
    | .error _ => 1
    | .ok _ => output.exitCode

end CommandRun

/-- Whether the failure is shown; the others break a command off. -/
def TlsError.isReported : TlsError → Bool
  | .nulInPath | .passphraseText _ | .longPassphrase => false
  | _ => true

/-- Whether the failure is shown. -/
def CompositionError.isReported : CompositionError → Bool
  | .tls e => e.isReported
  | .credentials e => e.step?.isSome
  | .address _ => false

/-- The step and the detail with which a report shows a failure to get a URL, if it does:
a token that is not obtained says all itself, and what happens on the network is shown with
the URL. -/
def ClientError.finding? (url : String) (e : ClientError) : Option (String × String) :=
  let request := ("request", url ++ ": " ++ e.message)
  match e with
  | .transport (.exchange _) => some ("auth", e.message)
  | .transport (.send f) => if f.isNetwork then some request else none
  | .redirect (.location _) | .tooManyRedirects => some request
  | _ => none

namespace Command

/-- The text itself, or a dash where there is none. -/
def orDash (text : String) : String := if text.isEmpty then "-" else text

/-- Runs without sending anything and without any programs. -/
def quiet {σ τ : Type} (result : Except CommandError CommandOutput) (s : σ) (t : τ) :
    CommandRun σ τ :=
  ⟨result, [], s, t⟩

/-- The configuration that a command uses. -/
def configuration {σ τ : Type} (m : Machine σ τ) (path : String) :
    Except LoadError SecurityConfig :=
  (SecurityConfig.loadFile m.files path).map fun cfg => cfg.withDefaults m.environment

/-- The files that a configuration names. -/
def namedFiles (cfg : SecurityConfig) : List String :=
  let tls := cfg.tls.getD .empty
  TlsConfig.authorityPaths tls.caPath ++ [tls.certPath, tls.keyPath, tls.passphrasePath] ++
    (cfg.basic.map BasicAuth.passwordFile).toList

/-- What is shown, or breaks the command off, where there is no configuration. -/
def refuse (e : LoadError) : Except CommandError CommandOutput :=
  if e.isConfigError then .ok (.refusal e) else .error (.load e)

/-! ## Showing a configuration -/

/-- The fields of settings for certificates. -/
def tlsFields (t : TlsConfig) : List (String × Json) :=
  [("tls.name", .str (orDash t.name)), ("tls.ca.cert.path", .str t.caPath),
    ("tls.client.cert.path", .str (orDash t.certPath)),
    ("tls.client.key.path", .str (orDash t.keyPath)), ("tls.client.disabled", .bool t.disabled),
    ("tls.insecure_skip_verify", .bool t.skipVerify)]

/-- The fields of static credentials; of the password only what may be shown. -/
def basicFields : Option BasicAuth → List (String × Json)
  | none => [("basic", .str "-")]
  | some b => [("basic", .str "configured"), ("basic.username", .str (orDash b.username)),
      ("basic.password", .str (orDash (redact b.password))),
      ("basic.password_file", .str (orDash b.passwordFile))]

/-- The fields of a configuration. -/
def configFields (cfg : SecurityConfig) : List (String × Json) :=
  ("credsStore", .str (orDash cfg.helper)) :: tlsFields (cfg.tls.getD .empty) ++
    basicFields cfg.basic

/-- Shows a configuration. -/
def showFields {σ τ : Type} (m : Machine σ τ) (path : String) :
    Except CommandError CommandOutput :=
  match configuration m path with
  | .error e => refuse e
  | .ok cfg =>
    .ok (.mapping ⟨"Security config " ++ SecurityConfig.plainPath path, configFields cfg⟩)

/-! ## Saying how a registry would be reached -/

/-- What may be shown of an identity. -/
def identityText : Identity → String
  | .password user pwd address =>
    let kind := if (Identity.password user pwd address).isEmpty then "empty" else "password"
    kind ++ " user=" ++ orDash user ++ " secret=" ++ orDash (redact pwd)
  | .token token _ => "token " ++ redact token

/-- Adds the identity and whom it is meant for. -/
def addIdentity (r : Report) (i : Identity) : Report :=
  (r.ok "identity" (identityText i)).ok "server address"
    (if i.serverAddress.isEmpty then "(unset)" else i.serverAddress)

/-- Adds a way to send. -/
def addOption (r : Report) (o : SendOption) : Report :=
  let r := r.ok "transport" o.label
  match o with
  | .authenticated _ t => addIdentity r t.identity
  | _ => r

/-- The settings of a command. -/
def settings (target : Target) (timeout : Seconds) (insecure : Bool) : Settings :=
  ⟨timeout, !insecure, true, target.helperTimeout, []⟩

/-- Chooses how to send to a host, with a configuration. -/
def compose {σ τ : Type} (m : Machine σ τ) (cfg : SecurityConfig) (host : String)
    (target : Target) (settings : Settings) (s : σ) : Composition σ :=
  SendOption.compose cfg host target.repo settings m.certificates m.files
    (.programs m.launcher settings.helperTimeout Helper.directory) s

/-- The report of what was chosen. -/
def resolutionReport (title : String) (choice : Except CompositionError SendOption) :
    Except CommandError CommandOutput :=
  match choice with
  | .ok o => .ok (.report (addOption (.titled title) o))
  | .error e =>
    if e.isReported then .ok (.report ((Report.titled title).fail "resolve" e.message))
    else .error (.composition e)

/-- Says how a registry would be reached. -/
def runResolve {σ τ : Type} (m : Machine σ τ) (target : Target) (s : σ) (t : τ) :
    CommandRun σ τ :=
  match configuration m target.config with
  | .error e => quiet (refuse e) s t
  | .ok cfg =>
    match Registry.host target.address with
    | .error e => quiet (.error (.address e)) s t
    | .ok host =>
      let c := compose m cfg host target (settings target defaultTimeout false) s
      quiet (resolutionReport ("Resolution for " ++ host ++ "/" ++ target.repo) c.result)
        c.helpers t

/-! ## Reaching a registry -/

/-- Adds what the registry answered. -/
def addAnswer (r : Report) (url : String) (status : Nat) : Report :=
  let detail := url ++ " HTTP " ++ toString status
  if status = 200 then r.ok "request" detail
  else if status = 401 then r.fail "request" (detail ++ " unauthorized")
  else r.warn "request" detail

/-- The report of what came of asking for a URL. -/
def fetchReport (r : Report) (url : String) (result : Except ClientError Answer) :
    Except CommandError CommandOutput :=
  match result with
  | .ok a => .ok (.report (addAnswer r url a.status))
  | .error e =>
    match e.finding? url with
    | none => .error (.client e)
    | some (step, detail) => .ok (.report (r.fail step detail))

/-- Asks a registry whether it is one, by a way to send. -/
def reach {σ τ : Type} (m : Machine σ τ) (r : Report) (address : String) (o : SendOption)
    (s : σ) (t : τ) : CommandRun σ τ :=
  match Registry.url address Registry.defaultPath with
  | .error e => quiet (.error (.address e)) s t
  | .ok url =>
    let f := (Client.mk .empty true o.route).get m.peer url t
    ⟨fetchReport (r.ok "transport" o.label) url f.result, f.sendings, s, f.peer⟩

/-- Reaches a registry. -/
def runPing {σ τ : Type} (m : Machine σ τ) (target : Target) (timeout : Seconds)
    (insecure : Bool) (s : σ) (t : τ) : CommandRun σ τ :=
  match configuration m target.config with
  | .error e => quiet (refuse e) s t
  | .ok cfg =>
    match Registry.host target.address with
    | .error e => quiet (.error (.address e)) s t
    | .ok host =>
      let r := Report.titled ("Ping " ++ host)
      let c := compose m cfg host target (settings target timeout insecure) s
      match c.result with
      | .error e =>
        quiet (if e.isReported then .ok (.report (r.fail "transport" e.message))
          else .error (.composition e)) c.helpers t
      | .ok o => reach m r target.address o c.helpers t

/-- Carries a command out. -/
def run {σ τ : Type} (m : Machine σ τ) (command : Command) (s : σ) (t : τ) : CommandRun σ τ :=
  match command with
  | .showConfig path => quiet (showFields m path) s t
  | .resolve target => runResolve m target s t
  | .ping target timeout insecure => runPing m target timeout insecure s t

end Command
end RegistryAuth
