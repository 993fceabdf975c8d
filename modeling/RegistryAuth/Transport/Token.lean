import RegistryAuth.Challenge
import RegistryAuth.Credential.Identity
import RegistryAuth.Http.Message
import RegistryAuth.Json.Bytes

/-!
# Token exchange

A bearer challenge names a realm: the URL at which an identity is exchanged for a token.
A name and a password are presented in a header, and what the token is for stands in the
query; a token that stands for both is posted as a field of a form.  `Token.request`
makes that request and `Token.ofReply` reads what comes back.

A token may be any JSON value that says something; a registry that hands out texts gets
them back as they are.
-/

namespace RegistryAuth

/-- Why the endpoint of a realm gives no token. -/
inductive ExchangeFault where
  | network (e : SendFailure)
  | status (code : Nat)
  | malformed (e : Json.BytesError)
  | noToken
  deriving Repr, DecidableEq

/-- The words for the fault. -/
def ExchangeFault.message : ExchangeFault → String
  | .network e => e.message
  | .status code => "HTTP " ++ toString code
  | .malformed e => "malformed response: " ++ e.message
  | .noToken => "response carries no token"

/-- The status of a refusal. -/
def ExchangeFault.status? : ExchangeFault → Option Nat
  | .status code => some code
  | _ => none

/-- The realm that was asked, and why it gives no token. -/
structure ExchangeError where
  realm : String
  fault : ExchangeFault
  deriving Repr, DecidableEq

/-- The words for the failure. -/
def ExchangeError.message (e : ExchangeError) : String :=
  "token exchange with " ++ e.realm ++ ": " ++ e.fault.message

/-- How an exchange fails: the realm cannot be asked, the endpoint gives no token, or
the system refuses. -/
inductive ExchangeFailure where
  | request (e : RequestError)
  | exchange (e : ExchangeError)
  | system (e : SendFailure)
  deriving Repr, DecidableEq

namespace Token

/-- The name under which this client asks. -/
def clientId : String := "regsec"

/-- The scope to ask for: the one of the challenge, or else that of the repository. -/
def scopeOf (challenge : Challenge) (ownScope : String) : String :=
  match challenge.param? "scope" with
  | some scope => if scope.isEmpty then ownScope else scope
  | none => ownScope

/-- The service that a challenge names; empty where it names none. -/
def serviceOf (challenge : Challenge) : String := (challenge.param? "service").getD ""

/-- The fields that are posted for a token. -/
def formFields (token service scope : String) : List (String × String) :=
  [("grant_type", "refresh_token"), ("refresh_token", token), ("service", service),
    ("scope", scope), ("client_id", clientId)]

/-- The fields of the query for a name and a password. -/
def queryFields (service scope : String) : List (String × String) :=
  ("scope", scope) :: if service.isEmpty then [] else [("service", service)]

/-- The request that exchanges an identity. -/
def request (identity : Identity) (realm service scope : String) : Except RequestError Request :=
  match identity with
  | .token token _ => Request.form realm (formFields token service scope)
  | .password username password _ =>
    match Request.query realm (queryFields service scope) with
    | .error e => .error e
    | .ok r =>
      if identity.isEmpty then .ok r
      else (r.authorize (Authorization.basic username password)).mapError .header

/-- The token in a document: `token` if that says something, else `access_token`. -/
def inDocument? (v : Json) : Option Json :=
  [v.get? "token", v.get? "access_token"].findSome? fun member => member.filter Json.isTruthy

/-- The token in the body of an answer. -/
def ofBody (status : Nat) (body : List UInt8) : Except ExchangeFault Json :=
  if status ≠ 200 then .error (.status status)
  else
    match Json.parseBytes body with
    | .error e => .error (.malformed e)
    | .ok v =>
      match inDocument? v with
      | some token => .ok token
      | none => .error .noToken

/-- A failure on the way to the endpoint or back. -/
def ofSendFailure (realm : String) (e : SendFailure) : ExchangeFailure :=
  if e.isNetwork then .exchange ⟨realm, .network e⟩ else .system e

/-- The token in what came back. -/
def ofReply (realm : String) : Except SendFailure Response → Except ExchangeFailure Json
  | .error e => .error (ofSendFailure realm e)
  | .ok response =>
    match response.body with
    | .error e => .error (ofSendFailure realm e)
    | .ok body => (ofBody response.status body).mapError fun fault => .exchange ⟨realm, fault⟩

end Token
end RegistryAuth
