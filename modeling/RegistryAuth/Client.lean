import RegistryAuth.Config.Settings
import RegistryAuth.Http.Redirect
import RegistryAuth.Transport.Basic

/-!
# The client

A client asks for URLs and follows redirects.  Its requests go to the network directly or
through the transport that carries credentials, and they carry the headers of its
settings; a name or a password in a URL is presented to the first server that is asked.

`Client.get` holds all that can be seen of a run, as `AuthTransport.handle` does for a
single request.
-/

namespace RegistryAuth

/-- The way that requests take. -/
inductive Route where
  | direct
  | through (transport : AuthTransport)

namespace Route

/-- The transport on the way, if there is one. -/
def transport? : Route → Option AuthTransport
  | .direct => none
  | .through t => some t

/-- The token at hand. -/
def token? (r : Route) : Option Json := r.transport?.bind AuthTransport.token

/-- Handles a request. -/
def handle {σ : Type} (route : Route) (peer : Peer σ) (request : Request) (s : σ) :
    Handled Route σ :=
  match route with
  | .direct =>
    let (reply, s) := peer.send request s
    ⟨reply.mapError .send, .direct, request.sent, [⟨.attempt, request, reply, false⟩], s⟩
  | .through t =>
    let h := t.handle peer request s
    ⟨h.result, .through h.carrier, h.request, h.sendings, h.peer⟩

end Route

/-- Why a client gets no answer. -/
inductive ClientError where
  | request (e : RequestError)
  | transport (e : TransportError)
  | redirect (e : RedirectError)
  | tooManyRedirects
  | unknownUrlType (url : List Char)
  deriving Repr, DecidableEq

/-- The words for the failure. -/
def ClientError.message : ClientError → String
  | .request e => e.message
  | .transport e => e.message
  | .redirect e => e.message
  | .tooManyRedirects => "Exceeded maximum allowed redirects."
  | .unknownUrlType url => "unknown url type: " ++ String.ofList (Text.quoted url)

/-- An answer that was read to its end. -/
structure Answer where
  status : Nat
  body : List UInt8
  deriving Repr, DecidableEq

/-- A client: the headers that all its requests carry, whether it follows redirects, and
the way that its requests take. -/
structure Client where
  headers : Headers
  followsRedirects : Bool
  route : Route

/-- What became of a request of a client. -/
structure Fetched (σ : Type) where
  result : Except ClientError Answer
  route : Route
  sendings : List Sending
  peer : σ

namespace Client

/-- A client with given settings. -/
def make (settings : Settings) (route : Route) : Except EncodeError Client :=
  (Headers.ofList settings.extraHeaders).map fun h => ⟨h, settings.followRedirects, route⟩

/-- The header for a name or a password in a URL. -/
def userHeader? (url : Url) : Option String :=
  if url.username.isEmpty && url.password.isEmpty then none
  else some (Authorization.basic (String.ofList url.username) (String.ofList url.password))

/-- The request for a URL. -/
def request (c : Client) (url : String) : Except RequestError Request := do
  let url ← (Url.parse url.toList).mapError .url
  let url ← url.rooted.mapError .url
  let request ← Request.ofUrl "GET" url c.headers []
  match userHeader? url with
  | none => return request
  | some header => (request.authorize header).mapError .header

/-- Whether a text begins with a word and a colon, and the word holds no slash. -/
def showsType (cs : List Char) : Bool :=
  let isEnd (c : Char) : Bool := c = ':' || c = '/'
  !(cs.takeWhile fun c => !isEnd c).isEmpty && (cs.dropWhile fun c => !isEnd c).head? = some ':'

/-- Checks that a URL shows its type, which is needed to remember anything about the
server that answered. -/
def checkType (url : Url) : Except ClientError Unit :=
  let (front, fragment) := (Text.cutLast? (· = '#') url.render).getD (url.render, [])
  if showsType front then .ok ()
  else .error (.unknownUrlType (if fragment.isEmpty then front else front ++ '#' :: fragment))

/-- How many redirects are followed. -/
def maxRedirects : Nat := 20

/-- Reads an answer to its end. -/
def finish (response : Response) : Except ClientError Answer :=
  match response.body with
  | .error e => .error (.transport (.send e))
  | .ok body => .ok ⟨response.status, body⟩

/-- What a client does about an answer. -/
inductive Step where
  | done (result : Except ClientError Answer)
  | follow (next : Request)

/-- What is done about the answer to a request.  The request of a redirect is made even
if it is not followed, and the answer is read to its end before it is. -/
def step (c : Client) (request : Request) (response : Response) : Step :=
  match checkType request.url with
  | .error e => .done (.error e)
  | .ok () =>
    match Redirect.location? response with
    | none => .done (finish response)
    | some location =>
      match Redirect.next request location with
      | .error e => .done (.error (.redirect e))
      | .ok next =>
        if !c.followsRedirects then .done (finish response)
        else
          match finish response with
          | .error e => .done (.error e)
          | .ok _ => .follow next

/-- Sends a request and follows the redirects, as long as `left` more requests may be
sent. -/
def run {σ : Type} (c : Client) (peer : Peer σ) : Nat → Route → Request → σ → Fetched σ
  | 0, route, _, s => ⟨.error .tooManyRedirects, route, [], s⟩
  | left + 1, route, request, s =>
    let h := route.handle peer request s
    match h.result with
    | .error e => ⟨.error (.transport e), h.carrier, h.sendings, h.peer⟩
    | .ok response =>
      match c.step h.request response with
      | .done result => ⟨result, h.carrier, h.sendings, h.peer⟩
      | .follow next =>
        let f := run c peer left h.carrier next h.peer
        { f with sendings := h.sendings ++ f.sendings }

/-- Asks for a URL. -/
def get {σ : Type} (c : Client) (peer : Peer σ) (url : String) (s : σ) : Fetched σ :=
  match c.request url with
  | .error e => ⟨.error (.request e), c.route, [], s⟩
  | .ok request => c.run peer (maxRedirects + 1) c.route request s

end Client
end RegistryAuth
