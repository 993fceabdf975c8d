import RegistryAuth.Client
import RegistryAuth.Credential.Resolution
import RegistryAuth.Tls.Context

/-!
# Choosing how to send

`SendOption.compose` turns a security configuration into the one way in which requests
to a registry are sent.  Certificates are loaded first, so that a fault of theirs is
reported before any credentials are looked for; and credentials are looked for only
where the configuration has some or names a helper.
-/

namespace RegistryAuth

/-- How certificates are verified: as a flag says, or with a context. -/
inductive Verification where
  | flag (isOn : Bool)
  | context (c : TlsContext)
  deriving Repr, DecidableEq

/-- The context in which a connection is made. -/
def Verification.effective : Verification → TlsContext
  | .flag true => .standard
  | .flag false => .lax
  | .context c => c

/-- The ways in which requests are sent: as the client does by itself, with a context for
certificates if there is one, or through the transport that carries credentials. -/
inductive SendOption where
  | plain
  | tls (context : Option TlsContext)
  | authenticated (verification : Verification) (transport : AuthTransport)

/-- Why there is no way to send. -/
inductive CompositionError where
  | tls (e : TlsError)
  | credentials (e : ResolutionError)
  | address (e : NumberError)
  deriving Repr, DecidableEq

/-- The words for the failure. -/
def CompositionError.message : CompositionError → String
  | .tls e => e.message
  | .credentials e => e.message
  | .address e => e.message

/-- What came of choosing: the calls for certificates, the choice, and the helpers
afterwards. -/
structure Composition (σ : Type) where
  tlsCalls : List TlsCall
  result : Except CompositionError SendOption
  helpers : σ

namespace SendOption

/-- The name under which a report shows the way. -/
def label : SendOption → String
  | .plain => "noop"
  | .tls _ => "tls"
  | .authenticated _ _ => "basic-auth transport"

/-- How the client verifies certificates itself; where a transport is given, it leaves
that to the transport. -/
def clientVerification? (settings : Settings) : SendOption → Option Verification
  | .plain | .tls none => some (.flag settings.verifyTls)
  | .tls (some c) => some (.context c)
  | .authenticated _ _ => none

/-- How certificates are verified in the end. -/
def verification (settings : Settings) : SendOption → Verification
  | .authenticated v _ => v
  | .tls (some c) => .context c
  | _ => .flag settings.verifyTls

/-- The way that requests take. -/
def route : SendOption → Route
  | .authenticated _ t => .through t
  | _ => .direct

/-- The calls for certificates and the context, if the configuration has a section for
them. -/
def buildTls (cfg : SecurityConfig) (course : TlsCourse) (fs : Files) : TlsBuild :=
  match cfg.tls with
  | none => ⟨[], .ok none⟩
  | some t => t.buildAlong course fs

/-- How the transport verifies certificates. -/
def transportVerification (context : Option TlsContext) (settings : Settings) : Verification :=
  match context with
  | some c => .context c
  | none => .flag settings.verifyTls

/-- The way through the transport that carries credentials. -/
def authenticate {σ : Type} (cfg : SecurityConfig) (address repo : String) (settings : Settings)
    (context : Option TlsContext) (fs : Files) (source : HelperSource σ) (s : σ) :
    Except CompositionError SendOption × σ :=
  match resolveIdentity source fs cfg.basic cfg.helper address s with
  | (.error e, s) => (.error (.credentials e), s)
  | (.ok identity, s) =>
    match AuthTransport.make address repo identity with
    | .error e => (.error (.address e), s)
    | .ok t => (.ok (.authenticated (transportVerification context settings) t), s)

/-- Chooses how to send to a repository of a registry. -/
def compose {σ : Type} (cfg : SecurityConfig) (address repo : String) (settings : Settings)
    (course : TlsCourse) (fs : Files) (source : HelperSource σ) (s : σ) : Composition σ :=
  let build := buildTls cfg course fs
  match build.result with
  | .error e => ⟨build.calls, .error (.tls e), s⟩
  | .ok context =>
    if cfg.usesBasicAuth then
      let (result, s) := authenticate cfg address repo settings context fs source s
      ⟨build.calls, result, s⟩
    else ⟨build.calls, .ok (if cfg.tls.isSome then .tls context else .plain), s⟩

end SendOption
end RegistryAuth
