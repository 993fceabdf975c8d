import RegistryAuth.Proofs.Transport.Conversation

/-!
# The token at hand

The token is all that a transport remembers.  It is set in the middle of a call, between
steps that may fail, so that a call that ends in a failure may leave a new token behind.
What it is after any number of calls is said here by the messages alone, without a look at
what was decided: `latestIssued` goes through the log and takes the token from the last
exchange that brought one.

`Sending.issued?` reads an answer by the rule of the protocol: status 200, and a JSON object
in which `token`, or else `access_token`, says something.  That the exchange accepts just
these answers is `toOption_ofReply`; from there the token is followed through the ends of
one call (`Handling.token_eq`) and then through a run (`token_eq_of_outcomes_eq`).
-/

namespace RegistryAuth

/-- The member of an object under that name, if it says something. -/
def Json.truthy? (members : List (CodeText × Json)) (name : String) : Option Json :=
  (members.lookup (.whole name)).filter Json.isTruthy

/-- The token that an answer brings. -/
def Response.issued? (response : Response) : Option Json :=
  match response.status, response.body with
  | 200, .ok body =>
    match Json.parseBytes body with
    | .ok (.obj members) =>
      (Json.truthy? members "token").or (Json.truthy? members "access_token")
    | _ => none
  | _, _ => none

/-- The token that a message brings, if it is an exchange and has an answer. -/
def Sending.issued? (m : Sending) : Option Json :=
  match m.purpose, m.reply with
  | .exchange, .ok response => response.issued?
  | _, _ => none

/-- The token of the last exchange in a log that brought one. -/
def latestIssued (log : List Sending) : Option Json := (log.filterMap Sending.issued?).getLast?

theorem latestIssued_append (log log' : List Sending) :
    latestIssued (log ++ log') = (latestIssued log').or (latestIssued log) := by
  rw [latestIssued, List.filterMap_append, List.getLast?_append]
  rfl

/-- A log without an exchange that brings a token leads to none. -/
theorem latestIssued_eq_none {log : List Sending} (h : ∀ m ∈ log, m.issued? = none) :
    latestIssued log = none := by
  rw [latestIssued, List.filterMap_eq_nil_iff.mpr h, List.getLast?_nil]

/-! ## The answers that bring a token -/

namespace Token

theorem inDocument?_obj (members : List (CodeText × Json)) :
    inDocument? (.obj members) =
      (Json.truthy? members "token").or (Json.truthy? members "access_token") := by
  unfold inDocument? Json.truthy? Json.get?
  cases h : (members.lookup (.whole "token")).filter Json.isTruthy <;> simp [h]

theorem inDocument?_eq_none {v : Json} (h : ∀ members, v ≠ .obj members) :
    inDocument? v = none := by
  cases v with
  | obj members => exact absurd rfl (h members)
  | _ => rfl

theorem toOption_ofBody_of_parse {body : List UInt8} {v : Json}
    (h : Json.parseBytes body = .ok v) : (ofBody 200 body).toOption = inDocument? v := by
  simp only [ofBody, ne_eq, not_true_eq_false, if_false, h]
  cases inDocument? v <;> rfl

/-- An answer to an exchange is accepted exactly if it brings a token, and for that
token. -/
theorem toOption_ofReply (realm : String) (reply : Except SendFailure Response) :
    (ofReply realm reply).toOption = reply.toOption.bind Response.issued? := by
  cases reply with
  | error e => rfl
  | ok response =>
    obtain ⟨status, headers, body⟩ := response
    cases body with
    | error e => simp [ofReply, Response.issued?, Except.toOption]
    | ok body =>
      have hreply : (ofReply realm (.ok ⟨status, headers, .ok body⟩)).toOption =
          (ofBody status body).toOption := by
        simp only [ofReply]
        cases ofBody status body <;> rfl
      rw [hreply]
      by_cases hstatus : status = 200
      · subst hstatus
        cases hparse : Json.parseBytes body with
        | error e => simp [ofBody, Response.issued?, hparse, Except.toOption]
        | ok v =>
          rw [toOption_ofBody_of_parse hparse]
          cases v with
          | obj members => simp [Response.issued?, hparse, inDocument?_obj, Except.toOption]
          | _ => simp [Response.issued?, hparse, Except.toOption, inDocument?_eq_none]
      · simp [ofBody, Response.issued?, hstatus, Except.toOption]

end Token

/-- The token that an exchange brings is the one that is taken from its reply. -/
theorem issued?_exchange (request : Request) (reply : Except SendFailure Response)
    (isReleased : Bool) (realm : String) :
    Sending.issued? ⟨.exchange, request, reply, isReleased⟩ =
      (Token.ofReply realm reply).toOption := by
  rw [Token.toOption_ofReply]
  cases reply <;> rfl

namespace AuthTransport

/-! ## The token after one call -/

theorem Retrial.issued? {first left : Request} {refusal : Response} {credentials : CodeText}
    {rest : List Sending} {result : Except TransportError Response}
    (h : Retrial first refusal credentials rest result left) : ∀ m ∈ rest, m.issued? = none := by
  cases h with
  | unread _ => exact List.forall_mem_nil _
  | unwritable _ _ => exact List.forall_mem_nil _
  | sent _ _ => exact List.forall_mem_singleton.mpr rfl

/-- A conversation leaves the token of its exchange behind, however it ends after that, and
else the token that there was. -/
theorem Conversation.token_eq {t t' : AuthTransport} {first left : Request}
    {sendings : List Sending} {result : Except TransportError Response}
    (h : t.Conversation first sendings result t' left) :
    t'.token = (latestIssued sendings).or t.token := by
  cases h with
  | unanswered => rfl
  | accepted _ => rfl
  | presented _ retrial =>
    rw [latestIssued_eq_none, Option.none_or]
    exact List.forall_mem_cons.mpr ⟨rfl, retrial.issued?⟩
  | unexchangeable _ _ => rfl
  | @refused response realm _ exchange reply e _ _ reply_eq =>
    have hexchange : Sending.issued? ⟨.exchange, exchange, reply, isReadable reply⟩ = none := by
      rw [issued?_exchange _ _ _ realm, reply_eq]
      rfl
    rw [latestIssued_eq_none, Option.none_or]
    exact List.forall_mem_cons.mpr ⟨rfl, List.forall_mem_singleton.mpr hexchange⟩
  | @exchanged response realm _ exchange reply token rest _ _ _ _ reply_eq retrial =>
    have hexchange : Sending.issued? ⟨.exchange, exchange, reply, isReadable reply⟩ =
        some token := by
      rw [issued?_exchange _ _ _ realm, reply_eq]
      rfl
    have hrest : latestIssued rest = none := latestIssued_eq_none retrial.issued?
    rw [← List.singleton_append, latestIssued_append, ← List.singleton_append,
      latestIssued_append, hrest, Option.none_or]
    simp [latestIssued, hexchange]

/-- A call leaves the token of its exchange behind, if that brings one, and else the token
that there was. -/
theorem Handling.token_eq {t t' : AuthTransport} {request left : Request}
    {sendings : List Sending} {result : Except TransportError Response}
    (h : t.Handling request sendings result t' left) :
    t'.token = (latestIssued sendings).or t.token := by
  cases h with
  | unreadable _ => rfl
  | passed _ => rfl
  | unread _ _ => rfl
  | unequipped _ _ _ _ => rfl
  | conversed _ _ _ conversation => exact conversation.token_eq

variable {σ : Type}

theorem token_act (t : AuthTransport) (peer : Peer σ) (s : σ) (a : Action) :
    (t.act peer s a).carrier.token =
      (latestIssued (t.act peer s a).outcome.sendings).or t.token := by
  cases a with
  | send request => exact (handle_handling t peer request s).2.token_eq
  | close => rfl

/-! ## The token in the course of a run -/

/-- After each of the actions of a run, the token is the last one that was brought since
its start, or the one that there was then. -/
theorem token_eq_of_outcomes_eq {peer : Peer σ} {before after : List Outcome} {o : Outcome}
    {t : AuthTransport} {actions : List Action} {s : σ}
    (h : outcomes peer t actions s = before ++ o :: after) :
    o.token = (latestIssued (log (before ++ [o]))).or t.token := by
  -- the actions before this one are peeled off, and each hands its token on to the rest
  induction actions generalizing t s before with
  | nil => cases before <;> cases h
  | cons a actions ih =>
    cases before with
    | nil =>
      obtain ⟨rfl, -⟩ := List.cons.inj h
      rw [token_outcome_act, token_act]
      simp
    | cons first before =>
      obtain ⟨rfl, hrest⟩ := List.cons.inj h
      rw [ih hrest, token_act, List.cons_append, log_cons, latestIssued_append, Option.or_assoc]

/-- The token at hand after some actions of a new transport. -/
def tokenAfter (before : List Outcome) : Option Json := before.getLast?.bind Outcome.token

/-- From a transport without a token on, the token at hand is always the last one that was
brought. -/
theorem tokenAfter_eq {peer : Peer σ} {t : AuthTransport} (ht : t.token = none)
    {actions : List Action} {s : σ} {before after : List Outcome}
    (h : outcomes peer t actions s = before ++ after) :
    tokenAfter before = latestIssued (log before) := by
  rcases List.eq_nil_or_concat before with rfl | ⟨front, o, rfl⟩
  · rfl
  · rw [List.concat_eq_append, List.append_assoc] at h
    rw [List.concat_eq_append, tokenAfter, List.getLast?_concat]
    rw [Option.bind_some, token_eq_of_outcomes_eq h, ht, Option.or_none]

/-- **The token at hand is always the last one that was brought.**  A transport is made and
then sends any requests and is closed at any time, over any network.  After each of these
actions:

* the token is the one that the last successful exchange of the whole run has brought, and
  there is none as long as no exchange has been successful;
* so an action leaves the token as it was, unless it makes an exchange that brings one; and
  then the token is that one, whatever else becomes of the action;
* once there has been a token, there is one. -/
theorem token_of_outcomes {address repo : String} {identity : Identity} {t : AuthTransport}
    (ht : make address repo identity = .ok t) (peer : Peer σ) (actions : List Action) (s : σ)
    {before after : List Outcome} {o : Outcome}
    (h : outcomes peer t actions s = before ++ o :: after) :
    o.token = latestIssued (log (before ++ [o])) ∧
      o.token = (latestIssued o.sendings).or (tokenAfter before) ∧
      ∀ earlier ∈ before, earlier.token.isSome → o.token.isSome := by
  have hnone : t.token = none := by
    obtain ⟨endpoint, -, rfl⟩ := make_eq_ok ht
    rfl
  have htoken : o.token = latestIssued (log (before ++ [o])) := by
    rw [token_eq_of_outcomes_eq h, hnone, Option.or_none]
  refine ⟨htoken, ?_, ?_⟩
  · rw [htoken, tokenAfter_eq hnone h, log_append, latestIssued_append]
    simp
  · intro earlier hearlier hsome
    obtain ⟨front, back, rfl⟩ := List.append_of_mem hearlier
    rw [List.append_assoc, List.cons_append] at h
    have hearlier := token_eq_of_outcomes_eq h
    rw [hnone, Option.or_none] at hearlier
    have hsplit : front ++ earlier :: back ++ [o] = (front ++ [earlier]) ++ (back ++ [o]) := by simp
    rw [htoken, hsplit, log_append, latestIssued_append, ← hearlier, Option.isSome_or, hsome,
      Bool.or_true]

/-- The refusal cannot be read to its end, so that nothing is sent after the exchange; but
that has brought a token, and it is still at hand when the transport is closed. -/
theorem token_of_outcomes_unread_refusal :
    let realm := "Bearer realm=\"https://auth.example.com/token\""
    let refusal : Response := ⟨401, [("WWW-Authenticate", realm)], .error ⟨.read, "reset"⟩⟩
    let issue : Response :=
      ⟨200, [], .ok (Text.Utf8.encodeString "\x7b\"token\": \"\", \"access_token\": \"t1\"\x7d")⟩
    ∃ t request o₁ o₂, make "registry.example.com" "lib/app" (.password "u" "p" "") = .ok t ∧
      Request.make "GET" "https://registry.example.com/v2/" [] [] = .ok request ∧
      outcomes Peer.scripted t [.send request, .close] [.ok refusal, .ok issue] = [o₁] ++ o₂ :: [] ∧
      o₁.sendings.map Sending.purpose = [.attempt, .exchange] ∧
      o₂.token.map Json.text = some (.whole "t1") ∧
      o₂.token = latestIssued (log ([o₁] ++ [o₂])) ∧
      o₂.token = (latestIssued o₂.sendings).or (tokenAfter [o₁]) ∧
      ∀ earlier ∈ [o₁], earlier.token.isSome → o₂.token.isSome := by
  intro realm refusal issue
  have hpair (t : AuthTransport) (s : List (Except SendFailure Response)) (a b : Action) :
      ∃ o₁ o₂, outcomes Peer.scripted t [a, b] s = [o₁] ++ o₂ :: [] ∧
        o₁ = (t.act Peer.scripted s a).outcome ∧
        o₂ = ((t.act Peer.scripted s a).carrier.act Peer.scripted
          (t.act Peer.scripted s a).peer b).outcome := ⟨_, _, rfl, rfl, rfl⟩
  obtain ⟨o₁, o₂, hrun, h₁, h₂⟩ := hpair (sample _) [.ok refusal, .ok issue] (.send .sample) .close
  refine ⟨_, _, o₁, o₂, make_sample _, Request.make_sample, hrun, ?_, ?_, ?_⟩
  · rw [h₁]; decide +kernel
  · rw [h₂]; decide +kernel
  · exact token_of_outcomes (make_sample _) Peer.scripted _ _ hrun

end AuthTransport
end RegistryAuth
