import RegistryAuth.Address
import RegistryAuth.Transport.Token

/-!
# The transport that answers challenges

An `AuthTransport` stands between a client and the network and carries the credentials
for one repository of one registry.  A request to another host passes through it
unchanged.  The body of one to its registry is read first, so that it can be sent twice.
The request is sent with the token at hand, if there is one; when the registry refuses it
with a challenge, the transport answers the challenge and sends the request once more.
It never sends a third time, so a registry that keeps refusing gets the refusal back to
the caller.

`AuthTransport.handle` is a function of the transport, the request and the state of the
network.  Its result holds all that can be seen of the run: the answer, the transport
with the token it now has, the request as it was left, and every message that was sent
with what came of it.
-/

namespace RegistryAuth

/-- What a message is sent for: a caller's request for the first time, an exchange of
credentials for a token, or a caller's request once more. -/
inductive Purpose where
  | attempt
  | exchange
  | retry
  deriving Repr, DecidableEq

/-- A message that was sent and what came back.  `isReleased` says that the transport
has read the answer to its end, so that its connection is free again. -/
structure Sending where
  purpose : Purpose
  request : Request
  reply : Except SendFailure Response
  isReleased : Bool

/-- Whether reading a reply to its end succeeds. -/
def isReadable (reply : Except SendFailure Response) : Bool :=
  match reply with
  | .ok response => response.body.isOk
  | .error _ => false

/-- Why a request gets no answer. -/
inductive TransportError where
  | hostname (e : HostnameError)
  | body (e : SendFailure)
  | header (e : EncodeError)
  | send (e : SendFailure)
  | request (e : RequestError)
  | exchange (e : ExchangeError)
  deriving Repr, DecidableEq

/-- The words for the failure. -/
def TransportError.message : TransportError → String
  | .hostname e => e.message
  | .body e => e.message
  | .header e => e.message
  | .send e => e.message
  | .request e => e.message
  | .exchange e => e.message

/-- A failed exchange as the failure of the request that needed it. -/
def ExchangeFailure.toTransportError : ExchangeFailure → TransportError
  | .request e => .request e
  | .exchange e => .exchange e
  | .system e => .send e

/-- The credentials for one repository of one registry, and the token that was last
obtained for it. -/
structure AuthTransport where
  address : String
  endpoint : Address
  repo : String
  identity : Identity
  token : Option Json

/-- What became of a request that something of type `τ` handled.  The request is as it
was left, and `sendings` holds the messages in the order in which they were sent. -/
structure Handled (τ σ : Type) where
  result : Except TransportError Response
  carrier : τ
  request : Request
  sendings : List Sending
  peer : σ

/-- What a transport does about an answer. -/
inductive Reaction where
  | accept
  | present (header : String)
  | exchange (realm : String) (challenge : Challenge)
  deriving Repr, DecidableEq

namespace AuthTransport

/-- A transport without a token. -/
def make (address repo : String) (identity : Identity) : Except NumberError AuthTransport :=
  (Address.parse address).map fun endpoint => ⟨address, endpoint, repo, identity, none⟩

/-- The scope of the repository. -/
def scope (t : AuthTransport) : String := "repository:" ++ t.repo ++ ":pull,push"

/-- The port of a scheme. -/
def schemePort? (scheme : List Char) : Option Int :=
  if scheme = ['h', 't', 't', 'p'] then some 80
  else if scheme = ['h', 't', 't', 'p', 's'] then some 443
  else none

/-- The port that is meant: the one that is written, unless it is zero, or else that of
the scheme. -/
def effectivePort (written usual : Option Int) : Option Int :=
  match written with
  | some 0 => usual
  | some n => some n
  | none => usual

/-- Whether a URL leads to the registry. -/
def appliesTo (t : AuthTransport) (url : Url) : Except HostnameError Bool :=
  url.shownHost.map fun host =>
    let usual := schemePort? url.scheme
    String.ofList (Unicode.lower host) = t.endpoint.host &&
      effectivePort url.port usual = effectivePort (t.endpoint.port.map Int.ofNat) usual

/-- The header in which a token is presented. -/
def bearer (token : Json) : CodeText := token.text.mapFront Authorization.bearer

/-- The request with the token at hand. -/
def equip (t : AuthTransport) (request : Request) : Except EncodeError Request :=
  match t.token with
  | none => .ok request
  | some token => request.authorize (bearer token)

/-- The header that carries a challenge. -/
def challengeHeader : String := "WWW-Authenticate"

/-- The challenge of an answer, if it is a refusal that holds one. -/
def challenge? (response : Response) : Option Challenge :=
  if response.status = 401 then (response.header? challengeHeader).map Challenge.parse else none

/-- What is done about a challenge.  A basic one is answered with a name and a password
if there are any; a bearer one if it says where to go. -/
def reactionTo (t : AuthTransport) (challenge : Challenge) : Reaction :=
  if challenge.scheme = "basic" then
    match t.identity with
    | .password username password _ =>
      if t.identity.isEmpty then .accept else .present (Authorization.basic username password)
    | .token _ _ => .accept
  else if challenge.scheme = "bearer" then
    match challenge.param? "realm" with
    | some realm => .exchange realm challenge
    | none => .accept
  else .accept

/-- What is done about an answer. -/
def reaction (t : AuthTransport) (response : Response) : Reaction :=
  match challenge? response with
  | some challenge => t.reactionTo challenge
  | none => .accept

/-- The request for a token that a challenge calls for. -/
def tokenRequest (t : AuthTransport) (realm : String) (challenge : Challenge) :
    Except RequestError Request :=
  Token.request t.identity realm (Token.serviceOf challenge) (Token.scopeOf challenge t.scope)

/-- Exchanges the identity for a token: the token, the message that was sent, if any,
and the network afterwards. -/
def exchange {σ : Type} (t : AuthTransport) (peer : Peer σ) (realm : String)
    (challenge : Challenge) (s : σ) : Except ExchangeFailure Json × List Sending × σ :=
  match t.tokenRequest realm challenge with
  | .error e => (.error (.request e), [], s)
  | .ok request =>
    let (reply, s) := peer.send request s
    (Token.ofReply realm reply, [⟨.exchange, request, reply, isReadable reply⟩], s)

/-- Sends a refused request once more, with credentials.  The refusal is read to its end
before; `first` is the request as it was sent, `refusal` the answer to it, and
`between` what was sent meanwhile. -/
def retry {σ : Type} (t : AuthTransport) (peer : Peer σ) (first : Request) (refusal : Response)
    (between : List Sending) (header : CodeText) (s : σ) : Handled AuthTransport σ :=
  let before := ⟨.attempt, first, .ok refusal, refusal.body.isOk⟩ :: between
  let left := first.sent
  match refusal.body with
  | .error e => ⟨.error (.send e), t, left, before, s⟩
  | .ok _ =>
    match left.authorize header with
    | .error e => ⟨.error (.header e), t, left, before, s⟩
    | .ok second =>
      let (reply, s) := peer.send second s
      ⟨reply.mapError .send, t, second.sent, before ++ [⟨.retry, second, reply, false⟩], s⟩

/-- Sends a request as it is. -/
def pass {σ : Type} (t : AuthTransport) (peer : Peer σ) (request : Request) (s : σ) :
    Handled AuthTransport σ :=
  let (reply, s) := peer.send request s
  ⟨reply.mapError .send, t, request.sent, [⟨.attempt, request, reply, false⟩], s⟩

/-- Sends a request to the registry and answers its challenge. -/
def converse {σ : Type} (t : AuthTransport) (peer : Peer σ) (first : Request) (s : σ) :
    Handled AuthTransport σ :=
  let (reply, s) := peer.send first s
  match reply with
  | .error e => ⟨.error (.send e), t, first.sent, [⟨.attempt, first, .error e, false⟩], s⟩
  | .ok response =>
    match t.reaction response with
    | .accept => ⟨.ok response, t, first.sent, [⟨.attempt, first, .ok response, false⟩], s⟩
    | .present header => t.retry peer first response [] header s
    | .exchange realm challenge =>
      match t.exchange peer realm challenge s with
      | (.error e, sendings, s) =>
        ⟨.error e.toTransportError, t, first.sent,
          ⟨.attempt, first, .ok response, false⟩ :: sendings, s⟩
      | (.ok token, sendings, s) =>
        { t with token := some token }.retry peer first response sendings (bearer token) s

/-- Handles a request. -/
def handle {σ : Type} (t : AuthTransport) (peer : Peer σ) (request : Request) (s : σ) :
    Handled AuthTransport σ :=
  match t.appliesTo request.url with
  | .error e => ⟨.error (.hostname e), t, request, [], s⟩
  | .ok false => t.pass peer request s
  | .ok true =>
    match request.read with
    | .error e => ⟨.error (.body e), t, { request with body := request.body.spent }, [], s⟩
    | .ok request =>
      match t.equip request with
      | .error e => ⟨.error (.header e), t, request, [], s⟩
      | .ok first => t.converse peer first s

/-- Closes the connections. -/
def close {σ : Type} (_ : AuthTransport) (peer : Peer σ) (s : σ) : σ := peer.close s

end AuthTransport
end RegistryAuth
