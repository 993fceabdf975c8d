import RegistryAuth.Text.Quoted
import RegistryAuth.Url.Hostname

/-!
# What can be wrong with a URL

`UrlError` says why a text, or one of the parts it is put together from, is no URL.
-/

namespace RegistryAuth

/-- A part of a URL that can be given on its own. -/
inductive UrlPart where
  | authority
  | path
  | query
  | fragment
  | host
  deriving Repr, DecidableEq

/-- The name of the part. -/
def UrlPart.name : UrlPart → String
  | .authority => "authority"
  | .path => "path"
  | .query => "query"
  | .fragment => "fragment"
  | .host => "host"

/-- Why a text is no URL. -/
inductive UrlError where
  | tooLong
  | control (c : Char) (position : Nat)
  | partTooLong (part : UrlPart)
  | partControl (part : UrlPart) (c : Char) (position : Nat)
  | badPart (part : UrlPart)
  | port (text : List Char)
  | ipv4 (host : List Char)
  | ipv6 (host : List Char)
  | hostname (host : List Char)
  | pathWithoutSlash
  | pathWithSlashes
  | pathWithColon
  deriving Repr, DecidableEq

/-- The words for the failure. -/
def UrlError.message : UrlError → String
  | .tooLong => "URL too long"
  | .control c position =>
    "Invalid non-printable ASCII character in URL, " ++ String.ofList (Text.quoted [c]) ++
      " at position " ++ toString position ++ "."
  | .partTooLong part => "URL component '" ++ part.name ++ "' too long"
  | .partControl part c position =>
    "Invalid non-printable ASCII character in URL " ++ part.name ++ " component, " ++
      String.ofList (Text.quoted [c]) ++ " at position " ++ toString position ++ "."
  | .badPart part => "Invalid URL component '" ++ part.name ++ "'"
  | .port text => "Invalid port: " ++ String.ofList (Text.quoted text)
  | .ipv4 host => "Invalid IPv4 address: " ++ String.ofList (Text.quoted host)
  | .ipv6 host => "Invalid IPv6 address: " ++ String.ofList (Text.quoted host)
  | .hostname host => "Invalid IDNA hostname: " ++ String.ofList (Text.quoted host)
  | .pathWithoutSlash => "For absolute URLs, path must be empty or begin with '/'"
  | .pathWithSlashes => "Relative URLs cannot have a path starting with '//'"
  | .pathWithColon => "Relative URLs cannot have a path starting with ':'"

end RegistryAuth
