import RegistryAuth.Config.Security
import RegistryAuth.Credential.Identity
import RegistryAuth.Files
import RegistryAuth.Text.Cut

/-!
# Static credentials

An identity from the credentials of a configuration.  A password file, where one is
named, is read each time and its whole content is the password.  The combined form in
base64 counts only where neither a name nor a password is given, and is passed over
where it is not readable.  A token wins over a name and a password.
-/

namespace RegistryAuth

/-- Why static credentials give no identity: the password file cannot be read, its
path or its content is no text, or the combined form is not in ASCII. -/
inductive StaticError where
  | passwordFile (e : SystemError)
  | nulInPath
  | content (e : Text.DecodeError)
  | notAscii
  deriving Repr, DecidableEq

namespace StaticError

/-- The words for the failure. -/
def message : StaticError → String
  | .passwordFile e => "read password file: " ++ e.message
  | .nulInPath => "embedded null byte"
  | .content e => e.message
  | .notAscii => "string argument should contain only ASCII characters"

end StaticError

namespace BasicAuth

/-- The name and the password in the combined form, if that is readable. -/
def decodePair (auth : String) : Option (String × String) :=
  match Text.Base64.decodeStrict auth.toList with
  | none => none
  | some bytes =>
    match Text.Utf8.decode bytes with
    | .error _ => none
    | .ok cs =>
      (Text.cut? (· = ':') cs).map fun (user, pwd) => (String.ofList user, String.ofList pwd)

/-- Whether all characters are in ASCII. -/
def isAscii (s : String) : Bool := s.toList.all fun c => c.toNat < 128

/-- The name and the password. -/
def pair (b : BasicAuth) (fs : Files) : Except StaticError (String × String) :=
  if !b.passwordFile.isEmpty then
    match fs.readExact b.passwordFile with
    | .ok cs => .ok (b.username, String.ofList cs)
    | .error (.system e) => .error (.passwordFile e)
    | .error .nulInPath => .error .nulInPath
    | .error (.text e) => .error (.content e)
  else if b.username.isEmpty && b.password.isEmpty && !b.auth.isEmpty then
    if !isAscii b.auth then .error .notAscii
    else .ok ((decodePair b.auth).getD ("", ""))
  else .ok (b.username, b.password)

/-- The identity that the credentials give. -/
def identity (b : BasicAuth) (fs : Files) : Except StaticError Identity :=
  (b.pair fs).map fun (username, password) =>
    if b.identityToken.isEmpty then .password username password b.serverAddress
    else .token b.identityToken b.serverAddress

end BasicAuth
end RegistryAuth
