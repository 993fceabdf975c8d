import RegistryAuth.Proofs.Http.Headers
import RegistryAuth.Proofs.Transport.Run

/-!
# Conversations

All that can come of handing a request to a transport, said once.  `AuthTransport.handle`
is a chain of decisions, each of which may end the matter; here every end has a name, with
what was sent, what is given back, the transport as it is left, and the request as it is
left.

* `Handling`: no message at all, where the host of the URL or the body cannot be read, or the
  token at hand cannot be written into the headers; the request as it is, where it goes
  elsewhere; or a conversation with the registry.
* `Conversation`: the request alone, the request and an exchange, and either of the two
  with a retry behind it, if it comes to one.
* `Retrial`: the end that a basic and a bearer challenge have in common.  The refusal is
  read to its end, the credentials are written, and the request is sent once more.

The conditions are those of the protocol: `Response.Challenges` is a refusal with a
challenge, `AsksPassword` one that a name and a password answer, and
`Response.AsksToken` one that a token answers.

## Why a relation

Later statements go through the ends one by one.  Each of them looks at only some of what
a run leaves behind, and none of them has to know in which order `handle` decides.
`handle_handling` is the one place where `handle` and the functions under it are opened.
-/

namespace RegistryAuth

/-- The answer is a refusal, and it carries the challenge. -/
def Response.Challenges (response : Response) (challenge : Challenge) : Prop :=
  response.status = 401 ∧
    ∃ header, response.header? AuthTransport.challengeHeader = some header ∧
      Challenge.parse header = challenge

/-- The answer refuses with a bearer challenge that names the realm. -/
def Response.AsksToken (response : Response) (realm : String) (challenge : Challenge) : Prop :=
  response.Challenges challenge ∧ challenge.scheme = "bearer" ∧
    challenge.param? "realm" = some realm

namespace AuthTransport

/-- The answer refuses with a basic challenge, and the identity is a name and a password,
of which one at least is not empty. -/
def AsksPassword (t : AuthTransport) (response : Response) (username password : String) : Prop :=
  ∃ challenge, response.Challenges challenge ∧ challenge.scheme = "basic" ∧
    (∃ address, t.identity = .password username password address) ∧ t.identity.isEmpty = false

/-- The answer asks for something that can be given. -/
def IsAsked (t : AuthTransport) (response : Response) : Prop :=
  (∃ username password, t.AsksPassword response username password) ∨
    ∃ realm challenge, response.AsksToken realm challenge

/-- `first` is the request as it is sent at first, after its body was read: with the token at
hand, or as it is if there is none. -/
def Equips (t : AuthTransport) (request first : Request) : Prop :=
  match t.token with
  | none => first = request
  | some token => request.Authorized (bearer token) first

/-- How the answer to a challenge ends: what is sent yet, what is given back, and the
request as it is left. -/
inductive Retrial (first : Request) (refusal : Response) (credentials : CodeText) :
    List Sending → Except TransportError Response → Request → Prop where
  | unread {e : SendFailure} (body_eq : refusal.body = .error e) :
      Retrial first refusal credentials [] (.error (.send e)) first.sent
  | unwritable {body : List UInt8} {e : EncodeError} (body_eq : refusal.body = .ok body)
      (authorize_eq : first.sent.authorize credentials = .error e) :
      Retrial first refusal credentials [] (.error (.header e)) first.sent
  | sent {body : List UInt8} {second : Request} {reply : Except SendFailure Response}
      (body_eq : refusal.body = .ok body) (authorized : first.Authorized credentials second) :
      Retrial first refusal credentials [⟨.retry, second, reply, false⟩] (reply.mapError .send)
        second.sent

/-- How a conversation with the registry ends, where `first` is what is sent at first:
what is sent in all, what is given back, and what is left of transport and request. -/
inductive Conversation (t : AuthTransport) (first : Request) :
    List Sending → Except TransportError Response → AuthTransport → Request → Prop where
  /-- The request gets no answer. -/
  | unanswered {e : SendFailure} :
      Conversation t first [⟨.attempt, first, .error e, false⟩] (.error (.send e)) t first.sent
  /-- The answer asks for nothing that can be given. -/
  | accepted {response : Response} (unasked : ¬ t.IsAsked response) :
      Conversation t first [⟨.attempt, first, .ok response, false⟩] (.ok response) t first.sent
  /-- A basic challenge is answered. -/
  | presented {response : Response} {username password : String} {rest : List Sending}
      {result : Except TransportError Response} {left : Request}
      (asks : t.AsksPassword response username password)
      (retrial : Retrial first response (Authorization.basic username password) rest result left) :
      Conversation t first (⟨.attempt, first, .ok response, response.body.isOk⟩ :: rest) result t
        left
  /-- There is no request for a token: the realm is no URL. -/
  | unexchangeable {response : Response} {realm : String} {challenge : Challenge}
      {e : RequestError} (asks : response.AsksToken realm challenge)
      (request_eq : t.tokenRequest realm challenge = .error e) :
      Conversation t first [⟨.attempt, first, .ok response, false⟩] (.error (.request e)) t
        first.sent
  /-- The exchange brings no token. -/
  | refused {response : Response} {realm : String} {challenge : Challenge} {exchange : Request}
      {reply : Except SendFailure Response} {e : ExchangeFailure}
      (asks : response.AsksToken realm challenge)
      (request_eq : t.tokenRequest realm challenge = .ok exchange)
      (reply_eq : Token.ofReply realm reply = .error e) :
      Conversation t first
        [⟨.attempt, first, .ok response, false⟩, ⟨.exchange, exchange, reply, isReadable reply⟩]
        (.error e.toTransportError) t first.sent
  /-- The exchange brings a token, and the bearer challenge is answered with it. -/
  | exchanged {response : Response} {realm : String} {challenge : Challenge} {exchange : Request}
      {reply : Except SendFailure Response} {token : Json} {rest : List Sending}
      {result : Except TransportError Response} {left : Request}
      (asks : response.AsksToken realm challenge)
      (request_eq : t.tokenRequest realm challenge = .ok exchange)
      (reply_eq : Token.ofReply realm reply = .ok token)
      (retrial : Retrial first response (bearer token) rest result left) :
      Conversation t first
        (⟨.attempt, first, .ok response, response.body.isOk⟩ ::
          ⟨.exchange, exchange, reply, isReadable reply⟩ :: rest)
        result { t with token := some token } left

/-- How the handling of a request ends: what is sent, what is given back, and what is left
of transport and request. -/
inductive Handling (t : AuthTransport) (request : Request) :
    List Sending → Except TransportError Response → AuthTransport → Request → Prop where
  /-- The host of the URL cannot be read. -/
  | unreadable {e : HostnameError} (applies : t.appliesTo request.url = .error e) :
      Handling t request [] (.error (.hostname e)) t request
  /-- The request goes elsewhere. -/
  | passed {reply : Except SendFailure Response} (applies : t.appliesTo request.url = .ok false) :
      Handling t request [⟨.attempt, request, reply, false⟩] (reply.mapError .send) t request.sent
  /-- The body cannot be read. -/
  | unread {e : SendFailure} (applies : t.appliesTo request.url = .ok true)
      (read_eq : request.read = .error e) :
      Handling t request [] (.error (.body e)) t { request with body := request.body.spent }
  /-- The token at hand cannot be written. -/
  | unequipped {read : Request} {token : Json} {e : EncodeError}
      (applies : t.appliesTo request.url = .ok true) (read_eq : request.read = .ok read)
      (token_eq : t.token = some token) (authorize_eq : read.authorize (bearer token) = .error e) :
      Handling t request [] (.error (.header e)) t read
  /-- There is a conversation with the registry. -/
  | conversed {read first left : Request} {sendings : List Sending} {t' : AuthTransport}
      {result : Except TransportError Response} (applies : t.appliesTo request.url = .ok true)
      (read_eq : request.read = .ok read) (equips : t.Equips read first)
      (conversation : t.Conversation first sendings result t' left) :
      Handling t request sendings result t' left

/-! ## What is done about an answer -/

theorem challenge?_eq_some_iff {response : Response} {challenge : Challenge} :
    challenge? response = some challenge ↔ response.Challenges challenge := by
  unfold challenge? Response.Challenges
  split
  · next hstatus => simp [hstatus, Option.map_eq_some_iff]
  · next hstatus => simp [hstatus]

theorem reactionTo_eq_present_iff {t : AuthTransport} {challenge : Challenge} {header : String} :
    t.reactionTo challenge = .present header ↔
      challenge.scheme = "basic" ∧ t.identity.isEmpty = false ∧
        ∃ username password address, t.identity = .password username password address ∧
          header = Authorization.basic username password := by
  unfold reactionTo
  by_cases hbasic : challenge.scheme = "basic"
  · rw [if_pos hbasic]
    cases hi : t.identity with
    | token token address => simp
    | password username password address =>
      cases hempty : (Identity.password username password address).isEmpty with
      | true => simp
      | false =>
        refine ⟨fun h => ⟨hbasic, rfl, username, password, address, rfl, ?_⟩, ?_⟩
        · exact (Reaction.present.inj h).symm
        · rintro ⟨-, -, u, p, a, hi', rfl⟩
          cases hi'
          rfl
  · rw [if_neg hbasic]
    split
    · split <;> simp [hbasic]
    · simp [hbasic]

theorem reactionTo_eq_exchange_iff {t : AuthTransport} {challenge c : Challenge}
    {realm : String} :
    t.reactionTo challenge = .exchange realm c ↔
      challenge = c ∧ challenge.scheme = "bearer" ∧ challenge.param? "realm" = some realm := by
  unfold reactionTo
  by_cases hbasic : challenge.scheme = "basic"
  · rw [if_pos hbasic]
    split
    · split <;> simp [hbasic]
    · simp [hbasic]
  · rw [if_neg hbasic]
    by_cases hbearer : challenge.scheme = "bearer"
    · rw [if_pos hbearer]
      split
      · next hrealm => simp [hbearer, hrealm, and_comm]
      · next hrealm => simp [hrealm]
    · rw [if_neg hbearer]
      simp [hbearer]

/-- Credentials are presented exactly where a name and a password are asked for. -/
theorem reaction_eq_present_iff {t : AuthTransport} {response : Response} {header : String} :
    t.reaction response = .present header ↔
      ∃ username password, t.AsksPassword response username password ∧
        header = Authorization.basic username password := by
  constructor
  · intro h
    cases hc : challenge? response with
    | none => rw [reaction, hc] at h; cases h
    | some challenge =>
      rw [reaction, hc] at h
      obtain ⟨hscheme, hempty, u, p, a, hi, hheader⟩ := reactionTo_eq_present_iff.mp h
      exact ⟨u, p, ⟨challenge, challenge?_eq_some_iff.mp hc, hscheme, ⟨a, hi⟩, hempty⟩, hheader⟩
  · rintro ⟨u, p, ⟨challenge, hc, hscheme, ⟨a, hi⟩, hempty⟩, hheader⟩
    rw [reaction, challenge?_eq_some_iff.mpr hc]
    exact reactionTo_eq_present_iff.mpr ⟨hscheme, hempty, u, p, a, hi, hheader⟩

/-- A token is fetched exactly where one is asked for. -/
theorem reaction_eq_exchange_iff {t : AuthTransport} {response : Response} {realm : String}
    {challenge : Challenge} :
    t.reaction response = .exchange realm challenge ↔ response.AsksToken realm challenge := by
  constructor
  · intro h
    cases hc : challenge? response with
    | none => rw [reaction, hc] at h; cases h
    | some c =>
      rw [reaction, hc] at h
      obtain ⟨rfl, hscheme, hrealm⟩ := reactionTo_eq_exchange_iff.mp h
      exact ⟨challenge?_eq_some_iff.mp hc, hscheme, hrealm⟩
  · rintro ⟨hc, hscheme, hrealm⟩
    rw [reaction, challenge?_eq_some_iff.mpr hc]
    exact reactionTo_eq_exchange_iff.mpr ⟨rfl, hscheme, hrealm⟩

/-- An answer that is accepted asks for nothing that can be given. -/
theorem not_isAsked_of_reaction_eq_accept {t : AuthTransport} {response : Response}
    (h : t.reaction response = .accept) : ¬ t.IsAsked response := by
  rintro (⟨u, p, hasks⟩ | ⟨realm, challenge, hasks⟩)
  · rw [reaction_eq_present_iff.mpr ⟨u, p, hasks, rfl⟩] at h
    cases h
  · rw [reaction_eq_exchange_iff.mpr hasks] at h
    cases h

/-! ## The functions under `handle`, one by one -/

variable {σ : Type}

theorem equips_of_equip {t : AuthTransport} {request first : Request}
    (h : t.equip request = .ok first) : t.Equips request first := by
  unfold equip at h
  unfold Equips
  cases htoken : t.token with
  | none =>
    rw [htoken] at h
    exact (Except.ok.inj h).symm
  | some token =>
    rw [htoken] at h
    exact Request.authorized_of_authorize h

/-- What is sent at first has its body at hand. -/
theorem isRead_of_equip {t : AuthTransport} {request first : Request} (hread : request.IsRead)
    (h : t.equip request = .ok first) : first.IsRead := by
  unfold equip at h
  split at h
  · exact Except.ok.inj h ▸ hread
  · exact hread.authorize h

/-- Only a token that is at hand can be impossible to write. -/
theorem authorize_of_equip_eq_error {t : AuthTransport} {request : Request} {e : EncodeError}
    (h : t.equip request = .error e) :
    ∃ token, t.token = some token ∧ request.authorize (bearer token) = .error e := by
  unfold equip at h
  split at h
  · cases h
  · next token htoken => exact ⟨token, htoken, h⟩

section Retry

variable (t : AuthTransport) (peer : Peer σ) {first : Request} {refusal : Response}
  (between : List Sending) {header : CodeText} (s : σ)

theorem retry_of_body_eq_error {e : SendFailure} (hbody : refusal.body = .error e) :
    t.retry peer first refusal between header s =
      ⟨.error (.send e), t, first.sent,
        ⟨.attempt, first, .ok refusal, refusal.body.isOk⟩ :: between, s⟩ := by
  simp only [retry, hbody]

theorem retry_of_authorize_eq_error {body : List UInt8} {e : EncodeError}
    (hbody : refusal.body = .ok body) (hsecond : first.sent.authorize header = .error e) :
    t.retry peer first refusal between header s =
      ⟨.error (.header e), t, first.sent,
        ⟨.attempt, first, .ok refusal, refusal.body.isOk⟩ :: between, s⟩ := by
  simp only [retry, hbody, hsecond]

theorem retry_of_authorize_eq_ok {body : List UInt8} {second : Request}
    (hbody : refusal.body = .ok body) (hsecond : first.sent.authorize header = .ok second) :
    t.retry peer first refusal between header s =
      ⟨(peer.send second s).1.mapError .send, t, second.sent,
        ⟨.attempt, first, .ok refusal, refusal.body.isOk⟩ ::
          (between ++ [⟨.retry, second, (peer.send second s).1, false⟩]),
        (peer.send second s).2⟩ := by
  simp only [retry, hbody, hsecond, List.cons_append]

/-- A retry of a request that was read ends in one of three ways, behind what was sent
before. -/
theorem exists_retrial_retry (hread : first.IsRead) :
    ∃ rest result left s', t.retry peer first refusal between header s =
        ⟨result, t, left,
          ⟨.attempt, first, .ok refusal, refusal.body.isOk⟩ :: (between ++ rest), s'⟩ ∧
      peer.Logs s rest s' ∧ Retrial first refusal header rest result left := by
  cases hbody : refusal.body with
  | error e =>
    refine ⟨[], _, _, _, ?_, .nil s, .unread hbody⟩
    rw [retry_of_body_eq_error t peer between s hbody, hbody, List.append_nil]
  | ok body =>
    cases hsecond : first.sent.authorize header with
    | error e =>
      refine ⟨[], _, _, _, ?_, .nil s, .unwritable hbody hsecond⟩
      rw [retry_of_authorize_eq_error t peer between s hbody hsecond, hbody, List.append_nil]
    | ok second =>
      have hauthorized := Request.Authorized.of_restates (Request.restates_sent hread)
        (Request.authorized_of_authorize hsecond)
      refine ⟨_, _, _, _, ?_, .single .retry second false s, .sent hbody hauthorized⟩
      rw [retry_of_authorize_eq_ok t peer between s hbody hsecond, hbody]

end Retry

/-- An exchange sends one message, unless there is none to send. -/
theorem exchange_of_tokenRequest_eq_error {t : AuthTransport} {realm : String}
    {challenge : Challenge} {e : RequestError} (h : t.tokenRequest realm challenge = .error e)
    (peer : Peer σ) (s : σ) :
    t.exchange peer realm challenge s = (.error (.request e), [], s) := by
  simp only [exchange, h]

theorem exchange_of_tokenRequest_eq_ok {t : AuthTransport} {realm : String}
    {challenge : Challenge} {r : Request} (h : t.tokenRequest realm challenge = .ok r)
    (peer : Peer σ) (s : σ) :
    t.exchange peer realm challenge s =
      (Token.ofReply realm (peer.send r s).1,
        [⟨.exchange, r, (peer.send r s).1, isReadable (peer.send r s).1⟩], (peer.send r s).2) := by
  simp only [exchange, h]

/-- What is sent to the registry is a conversation with it. -/
theorem conversation_converse (t : AuthTransport) (peer : Peer σ) {first : Request}
    (hread : first.IsRead) (s : σ) :
    peer.Logs s (t.converse peer first s).sendings (t.converse peer first s).peer ∧
      t.Conversation first (t.converse peer first s).sendings (t.converse peer first s).result
        (t.converse peer first s).carrier (t.converse peer first s).request := by
  generalize hh : t.converse peer first s = h
  have hattempt (b : Bool) : peer.Logs s [⟨.attempt, first, (peer.send first s).1, b⟩]
      (peer.send first s).2 := .single .attempt first b s
  simp only [converse] at hh
  cases hreply : (peer.send first s).1 with
  | error e =>
    rw [hreply] at hh hattempt
    subst hh
    exact ⟨hattempt false, .unanswered⟩
  | ok response =>
    rw [hreply] at hh hattempt
    cases hreaction : t.reaction response with
    | accept =>
      simp only [hreaction] at hh
      subst hh
      exact ⟨hattempt false, .accepted (not_isAsked_of_reaction_eq_accept hreaction)⟩
    | present header =>
      simp only [hreaction] at hh
      obtain ⟨u, p, hasks, rfl⟩ := reaction_eq_present_iff.mp hreaction
      obtain ⟨rest, result, left, s', heq, hlogs, hretrial⟩ :=
        exists_retrial_retry t peer [] (peer.send first s).2 hread
      rw [heq] at hh
      subst hh
      exact ⟨(hattempt _).append hlogs, .presented hasks hretrial⟩
    | exchange realm challenge =>
      simp only [hreaction] at hh
      have hasks := reaction_eq_exchange_iff.mp hreaction
      cases hrequest : t.tokenRequest realm challenge with
      | error e =>
        simp only [exchange_of_tokenRequest_eq_error hrequest] at hh
        subst hh
        exact ⟨hattempt false, .unexchangeable hasks hrequest⟩
      | ok r =>
        simp only [exchange_of_tokenRequest_eq_ok hrequest] at hh
        have hexchange (s' : σ) : peer.Logs s' [⟨.exchange, r, (peer.send r s').1,
            isReadable (peer.send r s').1⟩] (peer.send r s').2 := .single .exchange r _ s'
        -- only an exchange that brings a token leads on to a retry
        cases htoken : Token.ofReply realm (peer.send r (peer.send first s).2).1 with
        | error e =>
          simp only [htoken] at hh
          subst hh
          exact ⟨(hattempt false).append (hexchange _), .refused hasks hrequest htoken⟩
        | ok token =>
          simp only [htoken] at hh
          obtain ⟨rest, result, left, s', heq, hlogs, hretrial⟩ :=
            exists_retrial_retry { t with token := some token } peer _ _ hread
          rw [heq] at hh
          subst hh
          exact ⟨((hattempt _).append (hexchange _)).append hlogs,
            .exchanged hasks hrequest htoken hretrial⟩

/-- A request whose host cannot be read goes nowhere. -/
theorem handle_of_appliesTo_eq_error {t : AuthTransport} {request : Request} {e : HostnameError}
    (h : t.appliesTo request.url = .error e) (peer : Peer σ) (s : σ) :
    t.handle peer request s = ⟨.error (.hostname e), t, request, [], s⟩ := by
  simp only [handle, h]

/-- A request to the registry whose body cannot be read goes nowhere. -/
theorem handle_of_read_eq_error {t : AuthTransport} {request : Request} {e : SendFailure}
    (happlies : t.appliesTo request.url = .ok true) (h : request.read = .error e)
    (peer : Peer σ) (s : σ) :
    t.handle peer request s =
      ⟨.error (.body e), t, { request with body := request.body.spent }, [], s⟩ := by
  simp only [handle, happlies, h]

/-- Where the token at hand cannot be written, nothing is sent. -/
theorem handle_of_equip_eq_error {t : AuthTransport} {request read : Request} {e : EncodeError}
    (happlies : t.appliesTo request.url = .ok true) (hread : request.read = .ok read)
    (h : t.equip read = .error e) (peer : Peer σ) (s : σ) :
    t.handle peer request s = ⟨.error (.header e), t, read, [], s⟩ := by
  simp only [handle, happlies, hread, h]

/-- A request to the registry is read and equipped, and then there is a conversation. -/
theorem handle_of_equip_eq_ok {t : AuthTransport} {request read first : Request}
    (happlies : t.appliesTo request.url = .ok true) (hread : request.read = .ok read)
    (h : t.equip read = .ok first) (peer : Peer σ) (s : σ) :
    t.handle peer request s = t.converse peer first s := by
  simp only [handle, happlies, hread, h]

/-- **Whatever is handed to a transport, it ends in one of the ways of `Handling`**, and the
network has seen just what the transport says that it has sent. -/
theorem handle_handling (t : AuthTransport) (peer : Peer σ) (request : Request) (s : σ) :
    peer.Logs s (t.handle peer request s).sendings (t.handle peer request s).peer ∧
      t.Handling request (t.handle peer request s).sendings (t.handle peer request s).result
        (t.handle peer request s).carrier (t.handle peer request s).request := by
  generalize hh : t.handle peer request s = h
  cases happlies : t.appliesTo request.url with
  | error e =>
    rw [handle_of_appliesTo_eq_error happlies] at hh
    subst hh
    exact ⟨.nil s, .unreadable happlies⟩
  | ok b =>
    cases b with
    | false =>
      simp only [handle, happlies] at hh
      subst hh
      exact ⟨.single .attempt request false s, .passed happlies⟩
    | true =>
      cases hread : request.read with
      | error e =>
        rw [handle_of_read_eq_error happlies hread] at hh
        subst hh
        exact ⟨.nil s, .unread happlies hread⟩
      | ok read =>
        cases hequip : t.equip read with
        | error e =>
          rw [handle_of_equip_eq_error happlies hread hequip] at hh
          subst hh
          obtain ⟨token, htoken, hauthorize⟩ := authorize_of_equip_eq_error hequip
          exact ⟨.nil s, .unequipped happlies hread htoken hauthorize⟩
        | ok first =>
          rw [handle_of_equip_eq_ok happlies hread hequip] at hh
          subst hh
          have hfirst := isRead_of_equip (Request.isRead_of_read hread) hequip
          obtain ⟨hlogs, hconversation⟩ := conversation_converse t peer hfirst s
          exact ⟨hlogs, .conversed happlies hread (equips_of_equip hequip) hconversation⟩

end AuthTransport
end RegistryAuth
