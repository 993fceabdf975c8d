import RegistryAuth.Http.Headers
import RegistryAuth.Text.Utf8
import RegistryAuth.Url.Basic

/-!
# Requests and answers

What is sent to a server and what comes back.  The body of a request is at hand, or there
is a source that gives it while the request is sent.  An answer arrives in two steps: its
status and headers first, then its body, and either step may fail.  A `Peer` is
anything that requests can be sent to; it is changed by each of them.
-/

namespace RegistryAuth

/-- What kind of failure ended an exchange of messages.  All but the last two are failures
of the protocol or of the network; `caller` is one of the caller's own, whose source for the
body of a request gives out. -/
inductive FailureKind where
  | connect
  | read
  | write
  | connectTimeout
  | readTimeout
  | poolTimeout
  | protocol
  | proxy
  | system
  | caller
  deriving Repr, DecidableEq

/-- A failure to send a request or to read an answer. -/
structure SendFailure where
  kind : FailureKind
  message : String
  deriving Repr, DecidableEq

/-- Whether the failure is one of the protocol or the network. -/
def SendFailure.isNetwork (f : SendFailure) : Bool := f.kind != .system && f.kind != .caller

/-- The body of a request: bytes at hand, or a source with what reading it gives for the
first time and what it gives later.  A source that gives its bytes only once fails later. -/
inductive Body where
  | held (bytes : List UInt8)
  | source (first later : Except SendFailure (List UInt8))
  deriving Repr

namespace Body

/-- What reading the body gives. -/
def content : Body → Except SendFailure (List UInt8)
  | .held bytes => .ok bytes
  | .source first _ => first

/-- The body once it was read. -/
def spent : Body → Body
  | .held bytes => .held bytes
  | .source _ later => .source later later

end Body

/-- A request. -/
structure Request where
  method : String
  url : Url
  headers : Headers
  body : Body
  deriving Repr

/-- Why a request cannot be made. -/
inductive RequestError where
  | url (e : UrlError)
  | header (e : EncodeError)
  | hostname (e : HostnameError)
  deriving Repr, DecidableEq

/-- The words for the failure. -/
def RequestError.message : RequestError → String
  | .url e => e.message
  | .header e => e.message
  | .hostname e => e.message

/-- An answer: its status and headers, and what reading its body gives. -/
structure Response where
  status : Nat
  headers : List (String × String)
  body : Except SendFailure (List UInt8)

namespace Response

/-- The value of a header; several are joined by commas. -/
def header? (r : Response) (name : String) : Option String :=
  Headers.joined? (Headers.under name r.headers)

end Response

namespace Request

/-- A request for a URL that has been read.  The name of the host is needed in its own
script, unless the headers name the host. -/
def ofUrl (method : String) (url : Url) (headers : Headers) (body : List UInt8) :
    Except RequestError Request :=
  let request : Request := ⟨Unicode.upperString method, url, headers.copy, .held body⟩
  if headers.contains "Host" then .ok request
  else
    match url.shownHost with
    | .error e => .error (.hostname e)
    | .ok _ => .ok request

/-- A request from its parts as they are given. -/
def make (method url : String) (headers : List (String × String)) (body : List UInt8) :
    Except RequestError Request :=
  match Url.parse url.toList with
  | .error e => .error (.url e)
  | .ok u =>
    match Headers.ofList headers with
    | .error e => .error (.header e)
    | .ok h => ofUrl method u h body

/-- A request that sends the fields of a form. -/
def form (url : String) (fields : List (String × String)) : Except RequestError Request :=
  make "POST" url [("Content-Type", "application/x-www-form-urlencoded")]
    (Text.Utf8.encodeString (Form.encodeStrings fields))

/-- A request whose URL has the fields of a form for its query, and no other query. -/
def query (url : String) (fields : List (String × String)) : Except RequestError Request :=
  match Url.parseWithQuery url.toList (Form.encodeStrings fields).toList with
  | .error e => .error (.url e)
  | .ok u => ofUrl "GET" u .empty []

/-- Sets the credentials of a request. -/
def authorize (r : Request) (value : CodeText) : Except EncodeError Request :=
  (r.headers.set Headers.authorization value).map fun h => { r with headers := h }

/-- Reads the body of a request, which then is at hand. -/
def read (r : Request) : Except SendFailure Request :=
  r.body.content.map fun bytes => { r with body := .held bytes }

/-- The request after it was sent, which reads its headers and its body. -/
def sent (r : Request) : Request :=
  { r with headers := r.headers.settle, body := r.body.spent }

end Request

/-- Something that requests are sent to. -/
structure Peer (σ : Type) where
  send : Request → σ → Except SendFailure Response × σ
  close : σ → σ

end RegistryAuth
