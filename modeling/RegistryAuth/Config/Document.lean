import RegistryAuth.Config.Security
import RegistryAuth.Json.Value

/-!
# A configuration as a document

The layout in which a configuration is stored: the helper first, then the sections that
are there, each with all of its members.
-/

namespace RegistryAuth

/-- A section that holds a path. -/
def pathSection (path : String) : Json := .obj [("path", .str path)]

/-- The section of certificates. -/
def TlsConfig.toJson (t : TlsConfig) : Json :=
  .obj
    [("name", .str t.name),
      ("ca", .obj [("cert", pathSection t.caPath)]),
      ("client", .obj
        [("cert", pathSection t.certPath),
          ("key", pathSection t.keyPath),
          ("passphrase", pathSection t.passphrasePath),
          ("disabled", .bool t.disabled)]),
      ("insecure_skip_verify", .bool t.skipVerify)]

/-- The section of static credentials. -/
def BasicAuth.toJson (b : BasicAuth) : Json :=
  .obj
    [("username", .str b.username), ("password", .str b.password), ("auth", .str b.auth),
      ("email", .str b.email), ("serveraddress", .str b.serverAddress),
      ("identitytoken", .str b.identityToken), ("registrytoken", .str b.registryToken),
      ("password_file", .str b.passwordFile)]

/-- A whole configuration. -/
def SecurityConfig.toJson (cfg : SecurityConfig) : Json :=
  .obj
    ([(.whole "credsStore", Json.str cfg.helper)] ++
      (cfg.tls.map fun t => (.whole "tls", t.toJson)).toList ++
      (cfg.basic.map fun b => (.whole "basic", b.toJson)).toList)

end RegistryAuth
