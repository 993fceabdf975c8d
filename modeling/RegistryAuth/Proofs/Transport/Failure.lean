import RegistryAuth.Proofs.Transport.TokenCache
import RegistryAuth.Proofs.Transport.TokenRequest

/-!
# Failures of an exchange

An endpoint that gives no token is meant to be told of by an `ExchangeError`, which names the
realm and, where the endpoint has refused, its status.  Most failures are told so, and what such
an error says is true (`Token.of_ofReply_eq_error`).  What goes another way is listed in
`AuthTransport.Escapes`, and nothing else does (`AuthTransport.exchange_confined`):

* a realm that no request can be made for, and fields that are too long for a query: the request
  is put together before anything is watched;
* a failure on the way to the endpoint or back that is none of the network, such as one of the
  system;
* an answer whose token is no text: it is taken for a token all the same.

Whether a request can be made is a matter of the realm and of the length of the fields alone
(`Token.request_eq_error_iff`).  A text that is no ASCII is a token too, but there may be no way to
present it: headers that were read as ASCII take no other text.
-/

namespace RegistryAuth

/-! ## What came of asking -/

/-- The endpoint answers, and its answer can be read to its end. -/
def Answers (reply : Except SendFailure Response) (status : Nat) (body : List UInt8) : Prop :=
  ∃ headers, reply = .ok ⟨status, headers, .ok body⟩

/-- Sending the request fails, or reading the answer does. -/
def BreaksOff (reply : Except SendFailure Response) (e : SendFailure) : Prop :=
  reply = .error e ∨ ∃ response, reply = .ok response ∧ response.body = .error e

/-- Sending and reading fail, or there is an answer. -/
theorem breaksOff_or_answers (reply : Except SendFailure Response) :
    (∃ e, BreaksOff reply e) ∨ ∃ status body, Answers reply status body := by
  cases reply with
  | error e => exact .inl ⟨e, .inl rfl⟩
  | ok response =>
    obtain ⟨status, headers, body⟩ := response
    cases body with
    | error e => exact .inl ⟨e, .inr ⟨_, rfl, rfl⟩⟩
    | ok body => exact .inr ⟨status, body, headers, rfl⟩

theorem BreaksOff.not_answers {reply : Except SendFailure Response} {e : SendFailure}
    (h : BreaksOff reply e) (status : Nat) (body : List UInt8) : ¬ Answers reply status body := by
  rintro ⟨headers, rfl⟩
  rcases h with h | ⟨response, h, hbody⟩
  · cases h
  · cases h
    cases hbody

theorem Answers.unique {reply : Except SendFailure Response} {status status' : Nat}
    {body body' : List UInt8} (h : Answers reply status body) (h' : Answers reply status' body') :
    status = status' ∧ body = body' := by
  obtain ⟨headers, rfl⟩ := h
  obtain ⟨headers', h'⟩ := h'
  cases h'
  exact ⟨rfl, rfl⟩

theorem BreaksOff.unique {reply : Except SendFailure Response} {e e' : SendFailure}
    (h : BreaksOff reply e) (h' : BreaksOff reply e') : e = e' := by
  rcases h with rfl | ⟨response, rfl, hbody⟩
  · rcases h' with h' | ⟨response, h', -⟩
    · exact Except.error.inj h'
    · cases h'
  · rcases h' with h' | ⟨response', h', hbody'⟩
    · cases h'
    · cases h'
      rw [hbody] at hbody'
      exact Except.error.inj hbody'

namespace Token

variable {realm : String} {reply : Except SendFailure Response}

/-! ## Requests that cannot be made -/

/-- **A request for a token can be made wherever a plain request can**, unless its fields are
asked for in a query and are too long for one. -/
theorem request_eq_error_iff {identity : Identity} {service scope : String} :
    (∃ e, request identity realm service scope = .error e) ↔
      (∃ e, Request.make "GET" realm [] [] = .error e) ∨
        ((∃ username password address, identity = .password username password address) ∧
          Url.maxLength < (Form.encodeStrings (queryFields service scope)).toList.length) := by
  rw [Except.exists_error_iff, Except.exists_error_iff, exists_request_iff, not_and_or]
  cases identity <;> simp

/-! ## Replies -/

theorem ofReply_of_breaksOff {e : SendFailure} (h : BreaksOff reply e) :
    ofReply realm reply = .error (ofSendFailure realm e) := by
  rcases h with rfl | ⟨response, rfl, hbody⟩
  · rfl
  · simp only [ofReply, hbody]

theorem ofReply_of_answers {status : Nat} {body : List UInt8} (h : Answers reply status body) :
    ofReply realm reply =
      (ofBody status body).mapError fun fault => .exchange ⟨realm, fault⟩ := by
  obtain ⟨headers, rfl⟩ := h
  rfl

/-- A token is what an answer issues. -/
theorem ofReply_eq_ok_iff {token : Json} :
    ofReply realm reply = .ok token ↔
      ∃ response, reply = .ok response ∧ response.issued? = some token := by
  have htoken := toOption_ofReply realm reply
  constructor
  · intro h
    rw [h] at htoken
    obtain ⟨response, hreply, hissued⟩ := Option.bind_eq_some_iff.mp htoken.symm
    cases reply with
    | error e => cases hreply
    | ok response' =>
      cases hreply
      exact ⟨response, rfl, hissued⟩
  · rintro ⟨response, rfl, hissued⟩
    rw [Except.toOption, Option.bind_some, hissued] at htoken
    cases h : ofReply realm (.ok response) with
    | error e => rw [h] at htoken; cases htoken
    | ok token' => rw [h] at htoken; cases htoken; rfl

/-- A token says something. -/
theorem isTruthy_of_issued? {response : Response} {token : Json}
    (h : response.issued? = some token) : token.isTruthy = true := by
  unfold Response.issued? at h
  split at h
  · split at h
    · rcases Option.or_eq_some_iff.mp h with h | ⟨-, h⟩ <;> exact (Option.filter_eq_some_iff.mp h).2
    · cases h
  · cases h

/-- The status of a refusal is that of the answer. -/
theorem status?_of_ofBody {status : Nat} {body : List UInt8} {fault : ExchangeFault}
    (h : ofBody status body = .error fault) (code : Nat) :
    fault.status? = some code ↔ code ≠ 200 ∧ code = status := by
  unfold ofBody at h
  split at h
  · next hstatus =>
    rw [← Except.error.inj h]
    simp only [ExchangeFault.status?, Option.some.injEq]
    exact ⟨fun hcode => ⟨by omega, hcode.symm⟩, fun hcode => hcode.2.symm⟩
  · next hstatus =>
    have hnone : fault.status? = none := by
      split at h
      · rw [← Except.error.inj h]; rfl
      · split at h
        · cases h
        · rw [← Except.error.inj h]; rfl
    rw [hnone]
    exact ⟨nofun, fun hcode => absurd (hcode.2 ▸ hcode.1) hstatus⟩

/-- **What is told of a failure is true**: the realm is the one that was asked, and there is a
status exactly where the endpoint has answered with one that is not 200. -/
theorem of_ofReply_eq_error {e : ExchangeError} (h : ofReply realm reply = .error (.exchange e)) :
    e.realm = realm ∧
      ∀ code, e.fault.status? = some code ↔ code ≠ 200 ∧ ∃ body, Answers reply code body := by
  rcases breaksOff_or_answers reply with ⟨failure, hbreaks⟩ | ⟨status, body, hanswers⟩
  · rw [ofReply_of_breaksOff hbreaks, ofSendFailure] at h
    split at h
    · cases h
      refine ⟨rfl, fun code => ⟨nofun, ?_⟩⟩
      rintro ⟨-, body, hanswers⟩
      exact absurd hanswers (hbreaks.not_answers code body)
    · cases h
  · rw [ofReply_of_answers hanswers] at h
    cases hbody : ofBody status body with
    | ok token => rw [hbody] at h; cases h
    | error fault =>
      rw [hbody] at h
      cases h
      refine ⟨rfl, fun code => (status?_of_ofBody hbody code).trans (and_congr_right fun _ => ?_)⟩
      constructor
      · rintro rfl
        exact ⟨body, hanswers⟩
      · rintro ⟨body', hanswers'⟩
        exact (hanswers'.unique hanswers).1

/-- A text is issued, or what went wrong is told, unless something other than the network is at
fault or what is issued is no text. -/
theorem isTold_ofReply_iff :
    ((∃ text : CodeText, text ≠ "" ∧ ofReply realm reply = .ok (.str text)) ∨
        ∃ e, ofReply realm reply = .error (.exchange e)) ↔
      ¬ ((∃ e, BreaksOff reply e ∧ e.isNetwork = false) ∨
        ∃ response token, reply = .ok response ∧ response.issued? = some token ∧
          ∀ text, token ≠ .str text) := by
  constructor
  · rintro htold (⟨e, hbreaks, hsystem⟩ | ⟨response, token, hreply, hissued, huntyped⟩)
    · rw [ofReply_of_breaksOff hbreaks, ofSendFailure, hsystem] at htold
      rcases htold with ⟨text, -, h⟩ | ⟨e, h⟩ <;> cases h
    · rw [ofReply_eq_ok_iff.mpr ⟨response, hreply, hissued⟩] at htold
      rcases htold with ⟨text, -, h⟩ | ⟨e, h⟩
      · exact huntyped text (Except.ok.inj h)
      · cases h
  · intro hnone
    obtain ⟨hnetwork, htext⟩ := not_or.mp hnone
    cases hresult : ofReply realm reply with
    | ok token =>
      obtain ⟨response, hreply, hissued⟩ := ofReply_eq_ok_iff.mp hresult
      have htruthy := isTruthy_of_issued? hissued
      obtain ⟨text, rfl⟩ : ∃ text, token = .str text := by
        by_contra huntyped
        exact htext ⟨response, token, hreply, hissued, not_exists.mp huntyped⟩
      refine .inl ⟨text, ?_, rfl⟩
      rintro rfl
      cases htruthy
    | error failure =>
      rcases breaksOff_or_answers reply with ⟨e, hbreaks⟩ | ⟨status, body, hanswers⟩
      · have hkind : e.isNetwork = true := by
          by_contra hkind
          exact hnetwork ⟨e, hbreaks, Bool.eq_false_iff.mpr hkind⟩
        rw [ofReply_of_breaksOff hbreaks, ofSendFailure, hkind] at hresult
        exact .inr ⟨_, hresult.symm⟩
      · rw [ofReply_of_answers hanswers] at hresult
        cases hbody : ofBody status body with
        | ok token => rw [hbody] at hresult; cases hresult
        | error fault =>
          rw [hbody] at hresult
          exact .inr ⟨_, hresult.symm⟩

end Token

namespace AuthTransport

variable {σ : Type}

/-! ## Exchanges -/

/-- The ways of an exchange that end neither with a text for a token nor with a failure that is
told. -/
inductive Escapes (t : AuthTransport) (peer : Peer σ) (realm : String) (challenge : Challenge)
    (s : σ) : Prop where
  /-- No request can be made for the realm. -/
  | unaskable {e : RequestError} (make_eq : Request.make "GET" realm [] [] = .error e)
  /-- Scope and service are too long for a query. -/
  | overlong {username password address : String}
      (identity_eq : t.identity = .password username password address)
      (long : Url.maxLength < (Form.encodeStrings (Token.queryFields (Token.serviceOf challenge)
        (Token.scopeOf challenge t.scope))).toList.length)
  /-- What fails on the way to the endpoint or back is not the network. -/
  | broken {r : Request} {e : SendFailure} (request_eq : t.tokenRequest realm challenge = .ok r)
      (breaks : BreaksOff (peer.send r s).1 e) (kind_eq : e.isNetwork = false)
  /-- The endpoint issues what is no text. -/
  | untyped {r : Request} {response : Response} {token : Json}
      (request_eq : t.tokenRequest realm challenge = .ok r)
      (reply_eq : (peer.send r s).1 = .ok response) (issued : response.issued? = some token)
      (ne_str : ∀ text, token ≠ .str text)

/-- No request for a token can be made where none can be made at all, and where it is too
long. -/
theorem tokenRequest_eq_error_iff {t : AuthTransport} {realm : String} {challenge : Challenge} :
    (∃ e, t.tokenRequest realm challenge = .error e) ↔
      (∃ e, Request.make "GET" realm [] [] = .error e) ∨
        ((∃ username password address, t.identity = .password username password address) ∧
          Url.maxLength < (Form.encodeStrings (Token.queryFields (Token.serviceOf challenge)
            (Token.scopeOf challenge t.scope))).toList.length) :=
  Token.request_eq_error_iff

theorem escapes_of_tokenRequest_eq_error {t : AuthTransport} {realm : String}
    {challenge : Challenge} {e : RequestError} (h : t.tokenRequest realm challenge = .error e)
    (peer : Peer σ) (s : σ) : t.Escapes peer realm challenge s := by
  rcases tokenRequest_eq_error_iff.mp ⟨e, h⟩ with ⟨e, hmake⟩ | ⟨⟨u, p, a, hidentity⟩, hlong⟩
  · exact .unaskable hmake
  · exact .overlong hidentity hlong

/-- Once there is a request, only the reply to it decides. -/
theorem escapes_iff_of_tokenRequest_eq_ok {t : AuthTransport} {realm : String}
    {challenge : Challenge} {r : Request} (h : t.tokenRequest realm challenge = .ok r)
    (peer : Peer σ) (s : σ) :
    t.Escapes peer realm challenge s ↔
      (∃ e, BreaksOff (peer.send r s).1 e ∧ e.isNetwork = false) ∨
        ∃ response token, (peer.send r s).1 = .ok response ∧ response.issued? = some token ∧
          ∀ text, token ≠ .str text := by
  have hno (hfails : ∃ e, t.tokenRequest realm challenge = .error e) : False := by
    obtain ⟨e, he⟩ := hfails
    rw [h] at he
    cases he
  constructor
  · rintro (hmake | ⟨hidentity, hlong⟩ | ⟨hr, hbreaks, hkind⟩ | ⟨hr, hreply, hissued, huntyped⟩)
    · exact (hno (tokenRequest_eq_error_iff.mpr (.inl ⟨_, hmake⟩))).elim
    · exact (hno (tokenRequest_eq_error_iff.mpr (.inr ⟨⟨_, _, _, hidentity⟩, hlong⟩))).elim
    · rw [h] at hr
      cases hr
      exact .inl ⟨_, hbreaks, hkind⟩
    · rw [h] at hr
      cases hr
      exact .inr ⟨_, _, hreply, hissued, huntyped⟩
  · rintro (⟨e, hbreaks, hkind⟩ | ⟨response, token, hreply, hissued, huntyped⟩)
    · exact .broken h hbreaks hkind
    · exact .untyped h hreply hissued huntyped

/-- A call whose exchange fails ends with it: nothing more is sent, and the transport is left as it
was. -/
theorem handle_eq_of_exchange_eq_error {t : AuthTransport} {peer : Peer σ}
    {request read first : Request} {response : Response} {realm : String} {challenge : Challenge}
    {sendings : List Sending} {s s' s'' : σ} (happlies : t.appliesTo request.url = .ok true)
    (hread : request.read = .ok read) (hfirst : t.equip read = .ok first)
    (hreply : peer.send first s = (.ok response, s'))
    (hasks : response.AsksToken realm challenge) {failure : ExchangeFailure}
    (h : t.exchange peer realm challenge s' = (.error failure, sendings, s'')) :
    t.handle peer request s =
      ⟨.error failure.toTransportError, t, first.sent,
        ⟨.attempt, first, .ok response, false⟩ :: sendings, s''⟩ := by
  rw [handle_of_equip_eq_ok happlies hread hfirst]
  simp only [converse, hreply, reaction_eq_exchange_iff.mpr hasks, h]

/-- A call whose exchange fails, fails as the exchange does. -/
theorem handle_of_exchange_eq_error {t : AuthTransport} {peer : Peer σ}
    {request read first : Request} {response : Response} {realm : String} {challenge : Challenge}
    {s s' : σ} (happlies : t.appliesTo request.url = .ok true) (hread : request.read = .ok read)
    (hfirst : t.equip read = .ok first) (hreply : peer.send first s = (.ok response, s'))
    (hasks : response.AsksToken realm challenge)
    {failure : ExchangeFailure} (h : (t.exchange peer realm challenge s').1 = .error failure) :
    (t.handle peer request s).result = .error failure.toTransportError := by
  rw [handle_eq_of_exchange_eq_error happlies hread hfirst hreply hasks (Prod.ext h rfl)]

/-- After an exchange that gives a text in ASCII, a call fails only if reading the refusal does, or
sending the request once more. -/
theorem failure_of_exchange_eq_ok {t : AuthTransport} {peer : Peer σ}
    {request read first : Request} {response : Response} {realm : String} {challenge : Challenge}
    {s s' : σ} (happlies : t.appliesTo request.url = .ok true) (hread : request.read = .ok read)
    (hfirst : t.equip read = .ok first) (hreply : peer.send first s = (.ok response, s'))
    (hasks : response.AsksToken realm challenge)
    {text : String} (h : (t.exchange peer realm challenge s').1 = .ok (.str text))
    (hascii : ∀ c ∈ text.toList, Headers.isAscii c = true) {e : TransportError}
    (he : (t.handle peer request s).result = .error e) :
    let after := (t.exchange peer realm challenge s').2.2
    ∃ failure, e = .send failure ∧ (response.body = .error failure ∨
      ∃ second, (peer.send second after).1 = .error failure) := by
  intro after
  rcases hexchange : t.exchange peer realm challenge s' with ⟨result, sendings, s''⟩
  have hafter : after = s'' := congrArg (·.2.2) hexchange
  rw [hexchange] at h
  subst h
  rw [hafter]
  rw [handle_of_equip_eq_ok happlies hread hfirst] at he
  simp only [converse, hreply, reaction_eq_exchange_iff.mpr hasks, hexchange] at he
  cases hbody : response.body with
  | error failure =>
    rw [retry_of_body_eq_error _ _ _ _ hbody] at he
    exact ⟨failure, (Except.error.inj he).symm, .inl rfl⟩
  | ok body =>
    obtain ⟨second, hsecond⟩ :
        ∃ second, first.sent.authorize (bearer (.str text)) = .ok second :=
      ⟨_, Request.authorize_of_isAscii (Authorization.isAscii_of_mem_bearer hascii) _⟩
    rw [retry_of_authorize_eq_ok _ _ _ _ hbody hsecond] at he
    cases hagain : (peer.send second s'').1 with
    | ok answer =>
      rw [hagain] at he
      cases he
    | error failure =>
      rw [hagain] at he
      exact ⟨failure, (Except.error.inj he).symm, .inr ⟨_, hagain⟩⟩

/-- **How an exchange fails.**  Whatever the realm is, whatever the challenge says besides, and
whatever the network does:

* the exchange gives a text that says something, or it fails and that is told, exactly if it is
  none of the ways of `Escapes`;
* what is told names the realm, and it has a status exactly where the endpoint has answered with
  one that is not 200;
* a call whose exchange fails, fails as the exchange does and in no other way; and one whose
  exchange gives a text in ASCII fails only where the network does, in reading the refusal or in
  sending the request once more. -/
theorem exchange_confined (t : AuthTransport) (peer : Peer σ) (realm : String)
    (challenge : Challenge) (s : σ) :
    let result := (t.exchange peer realm challenge s).1
    let after := (t.exchange peer realm challenge s).2.2
    ((∃ text : CodeText, text ≠ "" ∧ result = .ok (.str text)) ∨
        (∃ e, result = .error (.exchange e)) ↔ ¬ t.Escapes peer realm challenge s) ∧
      (∀ e, result = .error (.exchange e) → e.realm = realm ∧
        ∃ r, t.tokenRequest realm challenge = .ok r ∧
          ∀ code, e.fault.status? = some code ↔
            code ≠ 200 ∧ ∃ body, Answers (peer.send r s).1 code body) ∧
      ∀ request read first response start, t.appliesTo request.url = .ok true →
        request.read = .ok read → t.equip read = .ok first →
        peer.send first start = (.ok response, s) → response.AsksToken realm challenge →
          (∀ failure, result = .error failure →
            (t.handle peer request start).result = .error failure.toTransportError) ∧
          ∀ text : String, result = .ok (.str text) →
            (∀ c ∈ text.toList, Headers.isAscii c = true) →
            ∀ e, (t.handle peer request start).result = .error e →
              ∃ failure, e = .send failure ∧ (response.body = .error failure ∨
                ∃ second, (peer.send second after).1 = .error failure) := by
  intro result after
  refine ⟨?_, ?_, fun request read first response start happlies hread hfirst hreply hasks =>
    ⟨fun failure hfailure =>
        handle_of_exchange_eq_error happlies hread hfirst hreply hasks hfailure,
      fun text htext hascii e he =>
        failure_of_exchange_eq_ok happlies hread hfirst hreply hasks htext hascii he⟩⟩
  · cases hrequest : t.tokenRequest realm challenge with
    | error e =>
      have hresult : result = .error (.request e) := by
        simp only [result, exchange_of_tokenRequest_eq_error hrequest]
      rw [hresult]
      refine iff_of_false ?_ (not_not.mpr (escapes_of_tokenRequest_eq_error hrequest peer s))
      rintro (⟨text, -, h⟩ | ⟨e, h⟩) <;> cases h
    | ok r =>
      have hresult : result = Token.ofReply realm (peer.send r s).1 := by
        simp only [result, exchange_of_tokenRequest_eq_ok hrequest]
      rw [hresult, escapes_iff_of_tokenRequest_eq_ok hrequest]
      exact Token.isTold_ofReply_iff
  · intro e he
    cases hrequest : t.tokenRequest realm challenge with
    | error e' =>
      simp only [result, exchange_of_tokenRequest_eq_error hrequest] at he
      cases he
    | ok r =>
      simp only [result, exchange_of_tokenRequest_eq_ok hrequest] at he
      obtain ⟨hrealm, hstatus⟩ := Token.of_ofReply_eq_error he
      exact ⟨hrealm, r, rfl, hstatus⟩

/-- The refusal of a registry that names nothing but a realm. -/
def refusal (realm : String) : Response :=
  ⟨401, [("WWW-Authenticate", "Bearer realm=\"" ++ realm ++ "\"")], .ok []⟩

/-- The endpoint refuses, and the call fails with its status. -/
theorem exchange_confined_of_denial :
    let realm := "https://auth.example.com/token"
    let challenge := Challenge.parse "Bearer realm=\"https://auth.example.com/token\""
    let t := sample (.password "u" "p" "")
    let denial : Response := ⟨403, [], .ok []⟩
    let e : ExchangeError := ⟨realm, .status 403⟩
    (t.exchange Peer.scripted realm challenge [.ok denial]).1 = .error (.exchange e) ∧
      ¬ t.Escapes Peer.scripted realm challenge [.ok denial] ∧
      (e.realm = realm ∧ ∃ r, t.tokenRequest realm challenge = .ok r ∧
        ∀ code, e.fault.status? = some code ↔
          code ≠ 200 ∧ ∃ body, Answers (Peer.scripted.send r [.ok denial]).1 code body) ∧
      (t.handle Peer.scripted .sample [.ok (refusal realm), .ok denial]).result =
        .error (.exchange e) := by
  intro realm challenge t denial e
  have hrequest : (t.tokenRequest realm challenge).isOk = true := by decide +kernel
  have hresult : (t.exchange Peer.scripted realm challenge [.ok denial]).1 =
      .error (.exchange e) := by
    cases hr : t.tokenRequest realm challenge with
    | error e => rw [hr] at hrequest; cases hrequest
    | ok r => rw [exchange_of_tokenRequest_eq_ok hr]; rfl
  have hasks : (refusal realm).AsksToken realm challenge :=
    (reaction_eq_exchange_iff (t := t)).mp (by decide +kernel)
  obtain ⟨htold, hsays, hcall⟩ :=
    exchange_confined t Peer.scripted realm challenge [.ok denial]
  exact ⟨hresult, htold.mp (.inr ⟨e, hresult⟩), hsays e hresult,
    (hcall .sample _ _ _ _ (by cbv) rfl rfl rfl hasks).1 _ hresult⟩

theorem tokenRequest_of_malformed_realm :
    (sample (.password "u" "p" "")).tokenRequest "https://auth.example.com:port/token"
        (Challenge.parse "Bearer realm=\"https://auth.example.com:port/token\"") =
      .error (.url (.port "port".toList)) := by
  have hservice : Token.serviceOf
      (Challenge.parse "Bearer realm=\"https://auth.example.com:port/token\"") = "" := by
    decide +kernel
  have hscope : Token.scopeOf
      (Challenge.parse "Bearer realm=\"https://auth.example.com:port/token\"")
        (sample (.password "u" "p" "")).scope = (sample (.password "u" "p" "")).scope := by
    decide +kernel
  have hparse : Url.parseWithQuery "https://auth.example.com:port/token".toList
      (Form.encodeStrings (Token.queryFields "" (sample (.password "u" "p" "")).scope)).toList =
        .error (.port "port".toList) := by decide +kernel
  rw [tokenRequest, hservice, hscope]
  simp only [sample, Token.request, Request.query] at hparse ⊢
  rw [hparse]

/-- Whether a token is a text, as it is meant to be. -/
def isTextToken : Json → Bool
  | .str _ => true
  | _ => false

/-- The realm of a challenge is no URL, for its port is no number, and no `ExchangeError` says so;
and where the endpoint issues a number, that is taken for a token. -/
theorem handle_of_malformed_realm :
    let t := sample (.password "u" "p" "")
    let issue : Response := ⟨200, [], .ok (Text.Utf8.encodeString "\x7b\"token\": 5\x7d")⟩
    make "registry.example.com" "lib/app" (.password "u" "p" "") = .ok t ∧
      Request.make "GET" "https://registry.example.com/v2/" [] [] = .ok .sample ∧
      (t.handle Peer.scripted .sample
          [.ok (refusal "https://auth.example.com:port/token")]).result =
        .error (.request (.url (.port "port".toList))) ∧
      ∃ token, (t.exchange Peer.scripted "https://auth.example.com/token"
          (Challenge.parse "Bearer realm=\"https://auth.example.com/token\"") [.ok issue]).1 =
          .ok token ∧ ∀ text, token ≠ .str text := by
  intro t issue
  refine ⟨make_sample _, Request.make_sample, ?_, ?_⟩
  · have hasks := (reaction_eq_exchange_iff (t := t)).mp (by decide +kernel :
      t.reaction (refusal "https://auth.example.com:port/token") =
        .exchange "https://auth.example.com:port/token"
          (Challenge.parse "Bearer realm=\"https://auth.example.com:port/token\""))
    have hreply : Peer.scripted.send .sample
        [.ok (refusal "https://auth.example.com:port/token")] =
          (.ok (refusal "https://auth.example.com:port/token"), []) := rfl
    exact handle_of_exchange_eq_error (by cbv) rfl rfl hreply hasks
      (congrArg Prod.fst
        (exchange_of_tokenRequest_eq_error tokenRequest_of_malformed_realm Peer.scripted []))
  · have hrequest : (t.tokenRequest "https://auth.example.com/token"
        (Challenge.parse "Bearer realm=\"https://auth.example.com/token\"")).isOk = true := by
      decide +kernel
    have hissued : issue.issued?.any (fun token => !isTextToken token) = true := by decide +kernel
    cases hr : t.tokenRequest "https://auth.example.com/token"
        (Challenge.parse "Bearer realm=\"https://auth.example.com/token\"") with
    | error e => rw [hr] at hrequest; cases hrequest
    | ok r =>
      obtain ⟨token, htoken, huntyped⟩ := (Option.any_eq_true _ _).mp hissued
      refine ⟨token, ?_, ?_⟩
      · rw [exchange_of_tokenRequest_eq_ok hr]
        exact Token.ofReply_eq_ok_iff.mpr ⟨issue, rfl, htoken⟩
      · rintro text rfl
        cases huntyped

end AuthTransport
end RegistryAuth
