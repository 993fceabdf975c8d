import RegistryAuth.Proofs.Credential.Authorization
import RegistryAuth.Proofs.Except
import RegistryAuth.Proofs.Transport.Conversation

/-!
# What a run shows of a secret

Two transports that differ in the secret of their identity alone are driven through the
same actions, over a network that gives its replies without a look at what it is sent.
All that can be seen of the two runs is then the same, up to the places where the secret
has to stand.  These places are few, and `Identity.veil` names them:

* the body of an exchange, for a token;
* the credentials of an exchange, for a name and a password;
* the credentials of a retry, for a name and a password, and only where the registry
  refused with a basic challenge.

`veiled_outcomes_eq` says that with these places veiled the runs are equal: as many
messages in the same order, the same results and the same token after each action.  A
first attempt is never veiled, nor is a request that goes elsewhere.

## How the runs are compared

The functions under `AuthTransport.handle` are compared one by one, each for the two
identities, and the comparison is always an equality of what the veil leaves.  The one
place where the secret could decide anything is `Request.authorize`, which refuses
credentials that cannot be written; `Authorization.isAscii_of_mem_basic` rules that out.
-/

namespace RegistryAuth

/-- A network whose replies do not depend on what it is sent. -/
def Peer.IsBlind {σ : Type} (peer : Peer σ) : Prop := ∀ r r' s, peer.send r s = peer.send r' s

theorem Peer.isBlind_scripted : Peer.scripted.IsBlind := fun _ _ _ => rfl

namespace Request

/-- The request without its body. -/
def withoutBody (r : Request) : Request := { r with body := .held [] }

/-- The request without its credentials. -/
def withoutCredentials (r : Request) : Request :=
  { r with headers := r.headers.erase Headers.authorization }

end Request

namespace Identity

/-- The identities differ in their secret and in nothing else: they are two tokens, or two
pairs of a name and a password that can both be presented. -/
inductive DiffersInSecret : Identity → Identity → Prop where
  | tokens (token token' address : String) :
      DiffersInSecret (.token token address) (.token token' address)
  | passwords {username password username' password' address : String}
      (hne : (Identity.password username password address).isEmpty = false)
      (hne' : (Identity.password username' password' address).isEmpty = false) :
      DiffersInSecret (.password username password address) (.password username' password' address)

/-- What is left of a message when the secret is taken out of it.  `isBasic` says that the
registry refused with a basic challenge. -/
def veil (i : Identity) (isBasic : Bool) : Purpose → Request → Request
  | .attempt => id
  | .exchange =>
    match i with
    | .token _ _ => Request.withoutBody
    | .password _ _ _ => Request.withoutCredentials
  | .retry =>
    match i, isBasic with
    | .password _ _ _, true => Request.withoutCredentials
    | _, _ => id

end Identity

/-- The message with the secret taken out of it. -/
def Sending.veiled (i : Identity) (isBasic : Bool) (m : Sending) : Sending :=
  { m with request := i.veil isBasic m.purpose m.request }

namespace AuthTransport

/-- Whether the answer refuses with a basic challenge. -/
def refusesBasic (response : Response) : Bool :=
  (challenge? response).any fun challenge => challenge.scheme = "basic"

/-- The messages of a call with the secret taken out of them. -/
def veiledLog (i : Identity) : List Sending → List Sending
  | [] => []
  | m :: rest =>
    let isBasic := m.reply.toOption.any refusesBasic
    m.veiled i isBasic :: rest.map (Sending.veiled i isBasic)

/-- What is seen of an action, with the secret taken out of its messages. -/
def Outcome.veiled (i : Identity) (o : Outcome) : Outcome :=
  { o with sendings := veiledLog i o.sendings }

/-- The transport with another identity. -/
def withIdentity (t : AuthTransport) (i : Identity) : AuthTransport := { t with identity := i }

end AuthTransport

/-! ## The request for a token -/

namespace Request

theorem map_make_withoutBody (method url : String) (headers : List (String × String))
    (body body' : List UInt8) :
    (make method url headers body).map withoutBody =
      (make method url headers body').map withoutBody := by
  unfold make
  cases Url.parse url.toList with
  | error e => rfl
  | ok u =>
    cases Headers.ofList headers with
    | error e => rfl
    | ok h =>
      simp only [ofUrl]
      split
      · rfl
      · cases u.shownHost <;> rfl

theorem withoutCredentials_put (r : Request) (value : List UInt8) :
    withoutCredentials { r with headers := r.headers.put Headers.authorization value } =
      r.withoutCredentials := by
  simp only [withoutCredentials, Headers.erase_put_self]

/-- Credentials that are a name and a password can always be set, and leave no trace but
themselves. -/
theorem map_authorize_basic (r : Request) (username password : String) :
    (r.authorize (Authorization.basic username password)).map withoutCredentials =
      .ok r.withoutCredentials := by
  rw [authorize_of_isAscii fun c hc => Authorization.isAscii_of_mem_basic hc]
  exact congrArg Except.ok (r.withoutCredentials_put _)

end Request

/-- The requests for a token differ in the secret alone. -/
theorem Token.map_request_veil {i j : Identity} (h : i.DiffersInSecret j)
    (realm service scope : String) (isBasic : Bool) :
    (Token.request i realm service scope).map (i.veil isBasic .exchange) =
      (Token.request j realm service scope).map (i.veil isBasic .exchange) := by
  cases h with
  | tokens token token' address =>
    simp only [Token.request, Request.form, Identity.veil]
    exact Request.map_make_withoutBody "POST" realm _ _ _
  | @passwords u p u' p' a hne hne' =>
    simp only [Token.request, hne, hne']
    cases Request.query realm (queryFields service scope) with
    | error e => rfl
    | ok r =>
      have hauthorize : ∀ u p, ((r.authorize (Authorization.basic u p)).mapError
          RequestError.header).map Request.withoutCredentials = .ok r.withoutCredentials := by
        intro u p
        obtain ⟨second, hsecond, heq⟩ := Except.map_eq_ok (r.map_authorize_basic u p)
        rw [hsecond, ← heq]
        rfl
      exact (hauthorize u p).trans (hauthorize u' p').symm

/-! ## The two calls, function by function -/

namespace AuthTransport

variable {σ : Type}

/-- The second call ends like the first one, of a transport with the identity `i`, but for
the secret: its transport has the identity `j`, and its messages are the same under the
veil. -/
structure Alike (i j : Identity) (h h' : Handled AuthTransport σ) : Prop where
  identity_eq : h.carrier.identity = i
  carrier_eq : h'.carrier = h.carrier.withIdentity j
  result_eq : h'.result = h.result
  sendings_eq : veiledLog i h'.sendings = veiledLog i h.sendings
  peer_eq : h'.peer = h.peer

/-- An answer calls for the same, except that two pairs of a name and a password are
presented each for itself. -/
theorem reaction_withIdentity {t : AuthTransport} {j : Identity} (h : t.identity.DiffersInSecret j)
    (response : Response) :
    (t.withIdentity j).reaction response = t.reaction response ∨
      ∃ username password username' password' address, refusesBasic response = true ∧
        t.identity = .password username password address ∧
        t.reaction response = .present (Authorization.basic username password) ∧
        (t.withIdentity j).reaction response =
          .present (Authorization.basic username' password') := by
  simp only [reaction, refusesBasic]
  cases challenge? response with
  | none => exact Or.inl rfl
  | some challenge =>
    simp only [reactionTo, withIdentity, Option.any_some]
    -- the identity is looked at only where the challenge is a basic one
    by_cases hbasic : challenge.scheme = "basic"
    · generalize t.identity = i at h
      cases h with
      | tokens token token' address => exact Or.inl rfl
      | @passwords u p u' p' a hne hne' =>
        refine Or.inr ⟨u, p, u', p', a, ?_⟩
        simp [hbasic, hne, hne']
    · exact Or.inl (by simp only [if_neg hbasic])

/-- The exchanges bring the same, and their messages are the same under the veil. -/
theorem exchange_alike {t : AuthTransport} {j : Identity} (h : t.identity.DiffersInSecret j)
    {peer : Peer σ} (hpeer : peer.IsBlind) (realm : String) (challenge : Challenge) (s : σ) :
    ∃ token log log' s', t.exchange peer realm challenge s = (token, log, s') ∧
      (t.withIdentity j).exchange peer realm challenge s = (token, log', s') ∧
      ∀ b, log'.map (Sending.veiled t.identity b) = log.map (Sending.veiled t.identity b) := by
  have hrequest (b : Bool) :
      (t.tokenRequest realm challenge).map (t.identity.veil b .exchange) =
        ((t.withIdentity j).tokenRequest realm challenge).map (t.identity.veil b .exchange) :=
    Token.map_request_veil h realm (Token.serviceOf challenge) (Token.scopeOf challenge t.scope) b
  rcases Except.cases_of_map_eq (hrequest false) with ⟨e, hi, hj⟩ | ⟨r, r', hi, hj, -⟩
  · exact ⟨_, _, _, _, exchange_of_tokenRequest_eq_error hi peer s,
      exchange_of_tokenRequest_eq_error hj peer s, fun b => rfl⟩
  · have hother := exchange_of_tokenRequest_eq_ok hj peer s
    rw [hpeer r' r] at hother
    refine ⟨_, _, _, _, exchange_of_tokenRequest_eq_ok hi peer s, hother, fun b => ?_⟩
    have hveil := hrequest b
    rw [hi, hj] at hveil
    simp only [List.map_cons, List.map_nil, Sending.veiled]
    rw [Except.ok.inj hveil]

/-- Retries with different credentials end alike, if the requests with these are the same
under the veil. -/
theorem retry_alike (t : AuthTransport) (j : Identity) {peer : Peer σ} (hpeer : peer.IsBlind)
    {first : Request} {refusal : Response} {between between' : List Sending}
    {header header' : CodeText} (s : σ)
    (hbetween : between'.map (Sending.veiled t.identity (refusesBasic refusal)) =
      between.map (Sending.veiled t.identity (refusesBasic refusal)))
    (hheader : (first.sent.authorize header').map (t.identity.veil (refusesBasic refusal) .retry) =
      (first.sent.authorize header).map (t.identity.veil (refusesBasic refusal) .retry)) :
    Alike t.identity j (t.retry peer first refusal between header s)
      ((t.withIdentity j).retry peer first refusal between' header' s) := by
  -- both logs begin with the same refusal, so the rest of them is veiled in the same way
  have hcons : ∀ b {rest rest' : List Sending},
      rest'.map (Sending.veiled t.identity (refusesBasic refusal)) =
        rest.map (Sending.veiled t.identity (refusesBasic refusal)) →
      veiledLog t.identity (⟨.attempt, first, .ok refusal, b⟩ :: rest') =
        veiledLog t.identity (⟨.attempt, first, .ok refusal, b⟩ :: rest) :=
    fun b _ _ h => congrArg (List.cons _) h
  cases hbody : refusal.body with
  | error e =>
    rw [retry_of_body_eq_error _ peer _ s hbody, retry_of_body_eq_error _ peer _ s hbody]
    exact ⟨rfl, rfl, rfl, hcons _ hbetween, rfl⟩
  | ok body =>
    rcases Except.cases_of_map_eq hheader with ⟨e, hj, hi⟩ | ⟨second', second, hj, hi, hveil⟩
    · rw [retry_of_authorize_eq_error _ peer _ s hbody hi,
        retry_of_authorize_eq_error _ peer _ s hbody hj]
      exact ⟨rfl, rfl, rfl, hcons _ hbetween, rfl⟩
    · rw [retry_of_authorize_eq_ok _ peer _ s hbody hi,
        retry_of_authorize_eq_ok _ peer _ s hbody hj, hpeer second' second]
      refine ⟨rfl, rfl, rfl, hcons _ ?_, rfl⟩
      rw [List.map_append, List.map_append, hbetween]
      simp only [List.map_cons, List.map_nil, Sending.veiled]
      rw [hveil]

theorem converse_alike {t : AuthTransport} {j : Identity} (h : t.identity.DiffersInSecret j)
    {peer : Peer σ} (hpeer : peer.IsBlind) (first : Request) (s : σ) :
    Alike t.identity j (t.converse peer first s) ((t.withIdentity j).converse peer first s) := by
  simp only [converse]
  cases (peer.send first s).1 with
  | error e => exact ⟨rfl, rfl, rfl, rfl, rfl⟩
  | ok response =>
    rcases reaction_withIdentity h response with heq | ⟨u, p, u', p', a, hbasic, hidentity, hi, hj⟩
    · simp only [heq]
      cases t.reaction response with
      | accept => exact ⟨rfl, rfl, rfl, rfl, rfl⟩
      | present header => exact retry_alike t j hpeer _ rfl rfl
      | exchange realm challenge =>
        obtain ⟨token, log, log', s', hi, hj, hlog⟩ :=
          exchange_alike h hpeer realm challenge (peer.send first s).2
        simp only [hi, hj]
        cases token with
        | error e => exact ⟨rfl, rfl, rfl, congrArg (List.cons _) (hlog _), rfl⟩
        | ok token =>
          exact retry_alike { t with token := some token } j hpeer s' (hlog _) rfl
    · simp only [hi, hj]
      refine retry_alike t j hpeer _ rfl ?_
      rw [hbasic, hidentity]
      exact (Request.map_authorize_basic _ u' p').trans (Request.map_authorize_basic _ u p).symm

theorem handle_alike {t : AuthTransport} {j : Identity} (h : t.identity.DiffersInSecret j)
    {peer : Peer σ} (hpeer : peer.IsBlind) (request : Request) (s : σ) :
    Alike t.identity j (t.handle peer request s) ((t.withIdentity j).handle peer request s) := by
  have happlies : (t.withIdentity j).appliesTo request.url = t.appliesTo request.url := rfl
  have hequip (r : Request) : (t.withIdentity j).equip r = t.equip r := rfl
  unfold handle
  rw [happlies]
  cases t.appliesTo request.url with
  | error e => exact ⟨rfl, rfl, rfl, rfl, rfl⟩
  | ok b =>
    cases b with
    | false => exact ⟨rfl, rfl, rfl, rfl, rfl⟩
    | true =>
      cases request.read with
      | error e => exact ⟨rfl, rfl, rfl, rfl, rfl⟩
      | ok read =>
        simp only [hequip]
        cases t.equip read with
        | error e => exact ⟨rfl, rfl, rfl, rfl, rfl⟩
        | ok first => exact converse_alike h hpeer first s

/-! ## Whole runs -/

/-- One action shows the same of both transports, and leaves them alike. -/
theorem act_alike {t : AuthTransport} {j : Identity} (h : t.identity.DiffersInSecret j)
    {peer : Peer σ} (hpeer : peer.IsBlind) (s : σ) (a : Action) :
    ((t.withIdentity j).act peer s a).outcome.veiled t.identity =
        (t.act peer s a).outcome.veiled t.identity ∧
      (t.act peer s a).carrier.identity = t.identity ∧
      ((t.withIdentity j).act peer s a).carrier = (t.act peer s a).carrier.withIdentity j ∧
      ((t.withIdentity j).act peer s a).peer = (t.act peer s a).peer := by
  cases a with
  | close => exact ⟨rfl, rfl, rfl, rfl⟩
  | send request =>
    have halike := handle_alike h hpeer request s
    refine ⟨?_, halike.identity_eq, halike.carrier_eq, halike.peer_eq⟩
    simp only [act, Outcome.veiled, halike.result_eq, halike.sendings_eq, halike.carrier_eq]
    rfl

/-- Whatever token is at hand, two transports that differ in the secret alone show the
same. -/
theorem outcomes_alike {peer : Peer σ} (hpeer : peer.IsBlind) {j : Identity}
    (actions : List Action) :
    ∀ {t : AuthTransport} (s : σ), t.identity.DiffersInSecret j →
      (outcomes peer (t.withIdentity j) actions s).map (Outcome.veiled t.identity) =
        (outcomes peer t actions s).map (Outcome.veiled t.identity) := by
  -- over all transports, since an action may bring a token
  induction actions with
  | nil => intro t s h; rfl
  | cons a actions ih =>
    intro t s h
    obtain ⟨houtcome, hidentity, hcarrier, hs⟩ := act_alike h hpeer s a
    rw [outcomes, outcomes, List.map_cons, List.map_cons, houtcome, hcarrier, hs]
    rw [← hidentity] at h ⊢
    rw [ih _ h]

/-- **A run shows nothing of the secret but where it is presented.**  Transports for the
same repository of the same registry, with identities that differ in the secret alone, are
made alike; and driven through the same actions over a network that does not look at what
it is sent, they show the same.  The messages are as many and in the same order, the
results and the tokens are the same, and so are the messages, except for what
`Identity.veil` takes out. -/
theorem veiled_outcomes_eq {i j : Identity} (h : i.DiffersInSecret j) (address repo : String)
    {peer : Peer σ} (hpeer : peer.IsBlind) (actions : List Action) (s : σ) :
    (make address repo j).map (fun t => (outcomes peer t actions s).map (Outcome.veiled i)) =
      (make address repo i).map (fun t => (outcomes peer t actions s).map (Outcome.veiled i)) := by
  unfold make
  cases Address.parse address with
  | error e => rfl
  | ok endpoint =>
    exact congrArg Except.ok
      (outcomes_alike hpeer actions (t := ⟨address, endpoint, repo, i, none⟩) s h)

/-- Two users are refused with a basic challenge.  Each presents its own name and password,
and nothing else is different. -/
theorem veiled_outcomes_eq_of_two_users :
    let i : Identity := .password "u" "p" ""
    let j : Identity := .password "v" "q" ""
    let script : List (Except SendFailure Response) :=
      [.ok ⟨401, [("WWW-Authenticate", "Basic")], .ok []⟩, .ok ⟨200, [], .ok []⟩]
    let credentials (os : List Outcome) : List (List String) :=
      (log os).map fun m => m.request.headers.texts Headers.authorization
    i.DiffersInSecret j ∧ Peer.scripted.IsBlind ∧
    ∃ t t' request, make "registry.example.com" "lib/app" i = .ok t ∧
      make "registry.example.com" "lib/app" j = .ok t' ∧
      Request.make "GET" "https://registry.example.com/v2/" [] [] = .ok request ∧
      credentials (outcomes Peer.scripted t [.send request] script) = [[], ["Basic dTpw"]] ∧
      credentials (outcomes Peer.scripted t' [.send request] script) = [[], ["Basic djpx"]] ∧
      (outcomes Peer.scripted t' [.send request] script).map (Outcome.veiled i) =
        (outcomes Peer.scripted t [.send request] script).map (Outcome.veiled i) := by
  intro i j script credentials
  have hdiffers : i.DiffersInSecret j := .passwords rfl rfl
  refine ⟨hdiffers, Peer.isBlind_scripted, _, _, _, make_sample i, make_sample j,
    Request.make_sample, ?_, ?_, ?_⟩
  · decide +kernel
  · decide +kernel
  · have heq := veiled_outcomes_eq hdiffers "registry.example.com" "lib/app"
      Peer.isBlind_scripted [.send .sample] script
    simp only [make_sample] at heq
    exact Except.ok.inj heq

end AuthTransport
end RegistryAuth
