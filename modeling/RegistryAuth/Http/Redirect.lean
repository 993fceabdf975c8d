import RegistryAuth.Http.Message
import RegistryAuth.Url.Reference

/-!
# Redirects

An answer may send its reader on to another place.  `Redirect.next` makes the request
that follows it: the location is resolved against the URL of the request before, keeps
its fragment if it has none of its own, and takes the headers along.  Credentials stay
behind when the origin changes, unless the same host is only reached more safely
(`Redirect.keepsCredentials`).
-/

namespace RegistryAuth

/-- Where a request goes: its scheme, its host, and the port if the scheme has a usual
one or the URL names one. -/
structure Origin where
  scheme : List Char
  host : List Char
  port : Option Int
  deriving Repr, DecidableEq

/-- The port to which a URL leads. -/
def Url.portOrUsual (u : Url) : Option Int :=
  match u.port with
  | some n => some n
  | none =>
    if u.scheme = "http".toList then some 80
    else if u.scheme = "https".toList then some 443
    else none

/-- The origin of a URL. -/
def Url.origin (u : Url) : Except HostnameError Origin :=
  u.shownHost.map fun host => ⟨u.scheme, host, u.portOrUsual⟩

/-- Why a redirect cannot be followed. -/
inductive RedirectError where
  | location (e : UrlError)
  | url (e : UrlError)
  | reference (e : ReferenceError)
  | hostname (e : HostnameError)
  deriving Repr, DecidableEq

/-- The words for the failure. -/
def RedirectError.message : RedirectError → String
  | .location e => "Invalid URL in location header: " ++ e.message ++ "."
  | .url e => e.message
  | .reference e => e.message
  | .hostname e => e.message

namespace Redirect

/-- The header that says where to go. -/
def locationHeader : String := "Location"

/-- Where an answer sends its reader on to, if it does. -/
def location? (response : Response) : Option String :=
  if [301, 302, 303, 307, 308].contains response.status then response.header? locationHeader
  else none

/-- A location with a scheme and no host is meant for the host of the request. -/
def supplyHost (request target : Url) : Except RedirectError Url :=
  if target.scheme.isEmpty then .ok target
  else
    match target.shownHost with
    | .error e => .error (.hostname e)
    | .ok (_ :: _) => .ok target
    | .ok [] =>
      match request.shownHost with
      | .error e => .error (.hostname e)
      | .ok host => (target.withHost host).mapError .url

/-- A location that is not absolute is resolved. -/
def resolve (request target : Url) : Except RedirectError Url :=
  if target.isAbsolute then .ok target
  else
    match Reference.join request.render target.render with
    | .error e => .error (.reference e)
    | .ok joined => (Url.parse joined).mapError .url

/-- A fragment is passed on to a URL that has none. -/
def passFragment (request target : Url) : Except RedirectError Url :=
  if request.shownFragment.isEmpty || !target.shownFragment.isEmpty then .ok target
  else (target.withFragment request.shownFragment).mapError .url

/-- The URL to which a location leads. -/
def target (request : Url) (location : String) : Except RedirectError Url := do
  let url ← (Url.parse location.toList).mapError .location
  let url ← supplyHost request url
  let url ← resolve request url
  passFragment request url

/-- Whether `there` is the same host as `here`, reached in the secure way instead of the
plain one. -/
def isUpgrade (here there : Origin) : Bool :=
  here.host = there.host && here.scheme = "http".toList && here.port = some 80 &&
    there.scheme = "https".toList && there.port = some 443

/-- Whether credentials are taken along. -/
def keepsCredentials (here there : Origin) : Bool := here = there || isUpgrade here there

/-- The header that names the host. -/
def hostHeader : String := "Host"

/-- The header that carries what a server asked to remember. -/
def cookieHeader : String := "Cookie"

/-- The headers for the next request. -/
def headers (request : Request) (url : Url) (here there : Origin) : Headers :=
  let kept := request.headers.copy
  let kept := if keepsCredentials here there then kept else kept.erase Headers.authorization
  let kept :=
    if here = there then kept else kept.put hostHeader (Text.Utf8.encode url.hostAndPort)
  kept.erase cookieHeader

/-- The request that follows a redirect of a request without a body. -/
def next (request : Request) (location : String) : Except RedirectError Request := do
  let url ← target request.url location
  let here ← request.url.origin.mapError .hostname
  let there ← url.origin.mapError .hostname
  return { request with url := url, headers := headers request url here there }

end Redirect
end RegistryAuth
