/-!
# The security configuration

What a client is told about reaching a registry: how to check certificates and which
one to present (`TlsConfig`), static credentials (`BasicAuth`), and the name of a
credential helper.  Every text that is not given is empty.
-/

namespace RegistryAuth

/-- Settings for certificates.  The certificate authorities are files or directories,
with colons between them; `disabled` leaves all of it to the client's own defaults. -/
structure TlsConfig where
  name : String
  caPath : String
  certPath : String
  keyPath : String
  passphrasePath : String
  disabled : Bool
  skipVerify : Bool
  deriving Repr, DecidableEq

/-- Settings for certificates in which nothing is set. -/
def TlsConfig.empty : TlsConfig := ⟨"", "", "", "", "", false, false⟩

/-- Static credentials: a name and a password, both in base64, a token, or a file that
holds the password. -/
structure BasicAuth where
  username : String
  password : String
  auth : String
  email : String
  serverAddress : String
  identityToken : String
  registryToken : String
  passwordFile : String
  deriving Repr, DecidableEq

/-- Static credentials in which nothing is set. -/
def BasicAuth.empty : BasicAuth := ⟨"", "", "", "", "", "", "", ""⟩

/-- A security configuration. -/
structure SecurityConfig where
  tls : Option TlsConfig
  basic : Option BasicAuth
  helper : String
  deriving Repr, DecidableEq

/-- The variables of the environment. -/
abbrev Environment := String → Option String

namespace SecurityConfig

/-- The variable that names the certificate authorities. -/
def caVariable : String := "SSL_CERT_DIR"

/-- Where the certificate authorities are if nothing says otherwise. -/
def defaultCaPath : String := "/etc/ssl/certs"

/-- The certificate authorities that the environment names. -/
def caPathIn (env : Environment) : String :=
  match env caVariable with
  | some path => if path.isEmpty then defaultCaPath else path
  | none => defaultCaPath

/-- The configuration with settings for certificates and with a path for the
certificate authorities. -/
def withDefaults (cfg : SecurityConfig) (env : Environment) : SecurityConfig :=
  let tls := cfg.tls.getD .empty
  { cfg with tls := some (if tls.caPath.isEmpty then { tls with caPath := caPathIn env } else tls) }

/-- Whether credentials are to be presented: some are given, or a helper is named. -/
def usesBasicAuth (cfg : SecurityConfig) : Bool := cfg.basic.isSome || !cfg.helper.isEmpty

end SecurityConfig
end RegistryAuth
