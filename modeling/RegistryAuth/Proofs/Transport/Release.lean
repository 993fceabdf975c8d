import RegistryAuth.Proofs.Transport.Failure

/-!
# Refusals that are left open

An answer holds a connection until it has been read to its end.  The answer that a call gives back
is left to the caller; the others are withheld, and nobody but the transport can release them
(`Outcome.withheld`).  It releases a refusal only behind the exchange, in front of the request that
it sends once more.  So a call that ends before that leaves the refusal open, and each such call
takes one more connection (`AuthTransport.refusals_left_open`).

* A refusal is settled by a call (`Response.isSettledBy`) if it can be read to its end and, where it
  asks for a token, the call brings one.
* A call abandons its refusal (`Outcome.abandons`) if it fails and the refusal is not settled.

## Why the ends of a call are told once more

`Conversation` says what is sent and why.  For the answers only this counts: whether the one to the
first message is given back, and else what was done about it.  `Disposal` keeps the four cases that
are left of it, and each statement about a call is read off them.
-/

namespace RegistryAuth

/-- Whether the answer refuses with a bearer challenge that names a realm. -/
def Response.asksToken (response : Response) : Bool :=
  (AuthTransport.challenge? response).any fun challenge =>
    challenge.scheme = "bearer" && (challenge.param? "realm").isSome

/-- Whether a call with these messages comes to release the refusal: it can be read to its end, and
if it asks for a token, one of the messages brings it. -/
def Response.isSettledBy (refusal : Response) (log : List Sending) : Bool :=
  refusal.body.isOk && (!refusal.asksToken || (latestIssued log).isSome)

/-- An exchange, whose answer is released as far as it can be read. -/
def Sending.IsExchange (m : Sending) : Prop :=
  m.purpose = .exchange ∧ m.isReleased = isReadable m.reply

namespace AuthTransport

/-- The messages whose answers are not given back: all that are answered if the call fails, and else
all but the last. -/
def Outcome.withheld (o : Outcome) : List Sending :=
  (match o.result with
    | some (.ok _) => o.sendings.dropLast
    | _ => o.sendings).filter fun m => m.reply.isOk

/-- The messages whose refusals are left open: neither given back nor released. -/
def Outcome.leftOpen (o : Outcome) : List Sending :=
  o.withheld.filter fun m => m.purpose ≠ .exchange ∧ m.isReleased = false

/-- Whether a call fails without having settled the refusal that it got. -/
def Outcome.abandons (o : Outcome) : Bool :=
  match o.result, o.sendings with
  | some (.error _), ⟨.attempt, _, .ok refusal, _⟩ :: _ => !refusal.isSettledBy o.sendings
  | _, _ => false

/-- What is done about the answers of a call. -/
structure Outcome.Accounts (o : Outcome) : Prop where
  /-- What is given back is the answer to the last message. -/
  given : ∀ response, o.result = some (.ok response) →
    ∃ m, o.sendings.getLast? = some m ∧ m.reply = .ok response
  /-- What else comes back to the caller's request is a refusal, and it is released if it is
  settled and in no other case. -/
  refusals : ∀ m ∈ o.withheld, m.purpose ≠ .exchange → ∃ refusal, m.reply = .ok refusal ∧
    refusal.status = 401 ∧ m.isReleased = refusal.isSettledBy o.sendings
  /-- The answer to an exchange is released as far as it can be read. -/
  exchanges : ∀ m ∈ o.withheld, m.purpose = .exchange → m.isReleased = isReadable m.reply
  /-- Before a request is sent once more, the refusal is released. -/
  retries : (∃ m ∈ o.sendings, m.purpose = .retry) → o.leftOpen = []
  /-- A call leaves no more than one refusal open, and that if it abandons it. -/
  length_leftOpen : o.leftOpen.length = if o.abandons then 1 else 0

/-! ## Refusals that ask for a token -/

theorem asksToken_iff {response : Response} :
    response.asksToken = true ↔ ∃ realm challenge, response.AsksToken realm challenge := by
  rw [Response.asksToken, Option.any_eq_true]
  constructor
  · rintro ⟨challenge, hchallenge, hbearer⟩
    rw [Bool.and_eq_true, decide_eq_true_iff] at hbearer
    obtain ⟨realm, hrealm⟩ := Option.isSome_iff_exists.mp hbearer.2
    exact ⟨realm, challenge, challenge?_eq_some_iff.mp hchallenge, hbearer.1, hrealm⟩
  · rintro ⟨realm, challenge, hchallenge, hbearer, hrealm⟩
    refine ⟨challenge, challenge?_eq_some_iff.mpr hchallenge, ?_⟩
    rw [hrealm, hbearer]
    rfl

/-- A basic challenge does not ask for a token. -/
theorem asksToken_of_asksPassword {t : AuthTransport} {response : Response}
    {username password : String} (h : t.AsksPassword response username password) :
    response.asksToken = false := by
  obtain ⟨challenge, hchallenge, hbasic, -⟩ := h
  rw [Response.asksToken, challenge?_eq_some_iff.mpr hchallenge, Option.any_some, hbasic]
  rfl

theorem isSettledBy_of_isOk {refusal : Response} {log : List Sending}
    (h : refusal.asksToken = true → (latestIssued log).isSome = true) :
    refusal.isSettledBy log = refusal.body.isOk := by
  have hissued : (!refusal.asksToken || (latestIssued log).isSome) = true := by
    cases hasks : refusal.asksToken with
    | false => rfl
    | true => exact h hasks
  rw [Response.isSettledBy, hissued, Bool.and_true]

/-- A refusal that asks for a token is not settled without one. -/
theorem isSettledBy_eq_false {refusal : Response} {log : List Sending}
    (hasks : refusal.asksToken = true) (h : latestIssued log = none) :
    refusal.isSettledBy log = false := by
  rw [Response.isSettledBy, hasks, h]
  exact Bool.and_false _

/-- A first message settles nothing. -/
theorem isSettledBy_cons_attempt (refusal : Response) (request : Request)
    (reply : Except SendFailure Response) (isReleased : Bool) (log : List Sending) :
    refusal.isSettledBy (⟨.attempt, request, reply, isReleased⟩ :: log) =
      refusal.isSettledBy log := rfl

/-- Nor does a retry. -/
theorem isSettledBy_append_retry (refusal : Response) (request : Request)
    (reply : Except SendFailure Response) (isReleased : Bool) (log : List Sending) :
    refusal.isSettledBy (log ++ [⟨.retry, request, reply, isReleased⟩]) =
      refusal.isSettledBy log := by
  have hretry : latestIssued [⟨.retry, request, reply, isReleased⟩] = none := rfl
  rw [Response.isSettledBy, latestIssued_append, hretry, Option.none_or, ← Response.isSettledBy]

/-! ## What becomes of the first answer -/

/-- What a call does about the answer to its first message, where `between` is what it sends
between the first message and the retry. -/
inductive Disposal : List Sending → Except TransportError Response → Prop where
  /-- There is none, for nothing is sent. -/
  | unsent {e : TransportError} : Disposal [] (.error e)
  /-- It is given back, or the failure is that came instead. -/
  | handed {request : Request} {reply : Except SendFailure Response} :
      Disposal [⟨.attempt, request, reply, false⟩] (reply.mapError .send)
  /-- It is a refusal, and the call fails before the request is sent once more. -/
  | failed {request : Request} {refusal : Response} {between : List Sending} {e : TransportError}
      (status_eq : refusal.status = 401) (exchanges : ∀ m ∈ between, m.IsExchange) :
      Disposal (⟨.attempt, request, .ok refusal, refusal.isSettledBy between⟩ :: between)
        (.error e)
  /-- It is a refusal, and it is released before the request is sent once more. -/
  | retried {request second : Request} {refusal : Response} {between : List Sending}
      {reply : Except SendFailure Response} (status_eq : refusal.status = 401)
      (exchanges : ∀ m ∈ between, m.IsExchange) (settled : refusal.isSettledBy between = true) :
      Disposal (⟨.attempt, request, .ok refusal, true⟩ ::
        (between ++ [⟨.retry, second, reply, false⟩])) (reply.mapError .send)

/-- Without a token, a refusal that asks for one is left open. -/
theorem Disposal.of_no_token {request : Request} {refusal : Response} {between : List Sending}
    {e : TransportError} {realm : String} {challenge : Challenge}
    (hasks : refusal.AsksToken realm challenge) (hnone : latestIssued between = none)
    (hexchanges : ∀ m ∈ between, m.IsExchange) :
    Disposal (⟨.attempt, request, .ok refusal, false⟩ :: between) (.error e) := by
  rw [← isSettledBy_eq_false (asksToken_iff.mpr ⟨realm, challenge, hasks⟩) hnone]
  exact .failed hasks.1.1 hexchanges

theorem Retrial.disposal {first left : Request} {refusal : Response} {credentials : CodeText}
    {between rest : List Sending} {result : Except TransportError Response}
    (h : Retrial first refusal credentials rest result left) (hstatus : refusal.status = 401)
    (hexchanges : ∀ m ∈ between, m.IsExchange)
    (hissued : refusal.asksToken = true → (latestIssued between).isSome = true) :
    Disposal (⟨.attempt, first, .ok refusal, refusal.body.isOk⟩ :: (between ++ rest)) result := by
  rw [← isSettledBy_of_isOk hissued]
  cases h with
  | unread _ =>
    rw [List.append_nil]
    exact .failed hstatus hexchanges
  | unwritable _ _ =>
    rw [List.append_nil]
    exact .failed hstatus hexchanges
  | sent body_eq _ =>
    have hsettled : refusal.isSettledBy between = true := by
      rw [isSettledBy_of_isOk hissued, body_eq]
      rfl
    rw [hsettled]
    exact .retried hstatus hexchanges hsettled

theorem Conversation.disposal {t t' : AuthTransport} {first left : Request}
    {sendings : List Sending} {result : Except TransportError Response}
    (h : t.Conversation first sendings result t' left) : Disposal sendings result := by
  cases h with
  | @unanswered e =>
    show Disposal _ ((Except.error e).mapError .send)
    exact .handed
  | @accepted response _ =>
    show Disposal _ ((Except.ok response).mapError .send)
    exact .handed
  | @presented response _ _ _ _ _ asks retrial =>
    have hstatus : response.status = 401 := by
      obtain ⟨_, hchallenges, -⟩ := asks
      exact hchallenges.1
    refine retrial.disposal hstatus (List.forall_mem_nil _) fun htoken => ?_
    rw [asksToken_of_asksPassword asks] at htoken
    cases htoken
  | unexchangeable asks _ => exact .of_no_token asks rfl (List.forall_mem_nil _)
  | @refused response realm _ exchange reply e asks _ reply_eq =>
    refine .of_no_token asks ?_ (List.forall_mem_singleton.mpr ⟨rfl, rfl⟩)
    refine latestIssued_eq_none (List.forall_mem_singleton.mpr ?_)
    rw [issued?_exchange _ _ _ realm, reply_eq]
    rfl
  | @exchanged response realm _ exchange reply token rest _ _ asks _ reply_eq retrial =>
    have hissued : Sending.issued? ⟨.exchange, exchange, reply, isReadable reply⟩ =
        some token := by
      rw [issued?_exchange _ _ _ realm, reply_eq]
      rfl
    show Disposal (_ :: ([⟨.exchange, exchange, reply, isReadable reply⟩] ++ rest)) _
    refine retrial.disposal asks.1.1 (List.forall_mem_singleton.mpr ⟨rfl, rfl⟩) fun _ => ?_
    simp [latestIssued, hissued]

theorem Handling.disposal {t t' : AuthTransport} {request left : Request}
    {sendings : List Sending} {result : Except TransportError Response}
    (h : t.Handling request sendings result t' left) : Disposal sendings result := by
  cases h with
  | unreadable _ => exact .unsent
  | passed _ => exact .handed
  | unread _ _ => exact .unsent
  | unequipped _ _ _ _ => exact .unsent
  | conversed _ _ _ conversation => exact conversation.disposal

/-! ## What is done about the answers of a call -/

section Accounts

variable {o : Outcome} {first : Sending} {refusal : Response} {between : List Sending}

/-- Of answers that are withheld, only a refusal in front can be left open. -/
theorem leftOpen_of_withheld (hwithheld : o.withheld = first :: between)
    (hpurpose : first.purpose = .attempt) (hexchanges : ∀ m ∈ between, m.IsExchange) :
    o.leftOpen = if first.isReleased then [] else [first] := by
  have hbetween : between.filter (fun m => m.purpose ≠ .exchange ∧ m.isReleased = false) = [] := by
    refine List.filter_eq_nil_iff.mpr fun m hm => ?_
    simp [(hexchanges m hm).1]
  rw [Outcome.leftOpen, hwithheld, List.filter_cons, hbetween, hpurpose]
  cases first.isReleased <;> rfl

/-- A call accounts for its answers if it withholds none, or a refusal in front of exchanges. -/
theorem Outcome.Accounts.of_withheld
    (hgiven : ∀ response, o.result = some (.ok response) →
      ∃ m, o.sendings.getLast? = some m ∧ m.reply = .ok response)
    (hwithheld : o.withheld = first :: between) (hpurpose : first.purpose = .attempt)
    (hreply : first.reply = .ok refusal) (hstatus : refusal.status = 401)
    (hreleased : first.isReleased = refusal.isSettledBy o.sendings)
    (hexchanges : ∀ m ∈ between, m.IsExchange)
    (hretries : (∃ m ∈ o.sendings, m.purpose = .retry) → first.isReleased = true)
    (habandons : o.abandons = !first.isReleased) : o.Accounts where
  given := hgiven
  refusals m hm hne := by
    rw [hwithheld] at hm
    rcases List.mem_cons.mp hm with rfl | hm
    · exact ⟨refusal, hreply, hstatus, hreleased⟩
    · exact absurd (hexchanges m hm).1 hne
  exchanges m hm heq := by
    rw [hwithheld] at hm
    rcases List.mem_cons.mp hm with rfl | hm
    · rw [hpurpose] at heq
      cases heq
    · exact (hexchanges m hm).2
  retries hretry := by
    rw [leftOpen_of_withheld hwithheld hpurpose hexchanges, hretries hretry]
    rfl
  length_leftOpen := by
    rw [leftOpen_of_withheld hwithheld hpurpose hexchanges, habandons]
    cases first.isReleased <;> rfl

theorem Outcome.Accounts.of_withheld_eq_nil
    (hgiven : ∀ response, o.result = some (.ok response) →
      ∃ m, o.sendings.getLast? = some m ∧ m.reply = .ok response)
    (hwithheld : o.withheld = []) (habandons : o.abandons = false) : o.Accounts := by
  have hopen : o.leftOpen = [] := by
    rw [Outcome.leftOpen, hwithheld]
    rfl
  refine ⟨hgiven, ?_, ?_, fun _ => hopen, ?_⟩
  · rw [hwithheld]
    exact List.forall_mem_nil _
  · rw [hwithheld]
    exact List.forall_mem_nil _
  · rw [hopen, habandons]
    rfl

/-- A call that sends its request once more withholds what was answered before, and nothing else:
the answer to the retry is given back, if there is one. -/
theorem withheld_of_retry {second : Request} {reply : Except SendFailure Response}
    {token : Option Json} (hfirst : first.reply.isOk = true) :
    Outcome.withheld ⟨some (reply.mapError .send),
        first :: (between ++ [⟨.retry, second, reply, false⟩]), token⟩ =
      first :: between.filter fun m => m.reply.isOk := by
  have hkept : (first :: between).filter (fun m => m.reply.isOk) =
      first :: between.filter fun m => m.reply.isOk := List.filter_cons_of_pos hfirst
  rw [Outcome.withheld, ← List.cons_append, ← hkept]
  cases reply with
  | error e =>
    dsimp only [Except.mapError]
    rw [List.filter_append]
    exact List.append_nil _
  | ok response =>
    dsimp only [Except.mapError]
    rw [List.dropLast_concat]

/-- A call that fails before it sends its request once more sends nothing else but exchanges. -/
theorem forall_purpose_ne_retry (hfirst : first.purpose = .attempt)
    (hexchanges : ∀ m ∈ between, m.IsExchange) : ¬ ∃ m ∈ first :: between, m.purpose = .retry := by
  rintro ⟨m, hm, hretry⟩
  rcases List.mem_cons.mp hm with rfl | hm
  · rw [hfirst] at hretry
    cases hretry
  · rw [(hexchanges m hm).1] at hretry
    cases hretry

end Accounts

/-- What is given back of a message is the answer to it. -/
theorem reply_eq_ok {reply : Except SendFailure Response} {response : Response}
    (h : some (reply.mapError TransportError.send) = some (.ok response)) :
    reply = .ok response := by
  cases reply with
  | error e => cases h
  | ok given => rw [Except.ok.inj (Option.some.inj h)]

theorem Disposal.accounts {sendings : List Sending} {result : Except TransportError Response}
    (h : Disposal sendings result) (token : Option Json) :
    Outcome.Accounts ⟨some result, sendings, token⟩ := by
  cases h with
  | unsent => exact .of_withheld_eq_nil nofun rfl rfl
  | @handed request reply =>
    refine .of_withheld_eq_nil (fun _ hgiven => ⟨_, rfl, reply_eq_ok hgiven⟩) ?_ ?_
    · cases reply <;> rfl
    · cases reply <;> rfl
  | @failed request refusal between e status_eq exchanges =>
    exact .of_withheld nofun (List.filter_cons_of_pos rfl) rfl rfl status_eq rfl
      (fun m hm => exchanges m (List.mem_of_mem_filter hm))
      (fun hretry => absurd hretry (forall_purpose_ne_retry rfl exchanges)) rfl
  | @retried request second refusal between reply status_eq exchanges settled =>
    have hsettled : true = refusal.isSettledBy (⟨.attempt, request, .ok refusal, true⟩ ::
        (between ++ [⟨.retry, second, reply, false⟩])) := by
      rw [isSettledBy_cons_attempt, isSettledBy_append_retry, settled]
    have hkept : ∀ m ∈ between.filter fun m => m.reply.isOk, m.IsExchange := fun m hm =>
      exchanges m (List.mem_of_mem_filter hm)
    refine .of_withheld (fun _ hgiven => ⟨⟨.retry, second, reply, false⟩, ?_, reply_eq_ok hgiven⟩)
      (withheld_of_retry rfl) rfl rfl status_eq hsettled hkept (fun _ => rfl) ?_
    · rw [← List.cons_append, List.getLast?_concat]
    · cases reply with
      | error e => simp [Outcome.abandons, Except.mapError, ← hsettled]
      | ok response => rfl

variable {σ : Type}

/-- Each action accounts for its answers. -/
theorem accounts_act (t : AuthTransport) (peer : Peer σ) (s : σ) (a : Action) :
    (t.act peer s a).outcome.Accounts := by
  cases a with
  | send request => exact (handle_handling t peer request s).2.disposal.accounts _
  | close => exact .of_withheld_eq_nil nofun rfl rfl

/-! ## In the course of a run -/

theorem accounts_of_mem_outcomes {peer : Peer σ} {o : Outcome} {t : AuthTransport}
    {actions : List Action} {s : σ} (ho : o ∈ outcomes peer t actions s) : o.Accounts := by
  induction actions generalizing t s with
  | nil => cases ho
  | cons a actions ih =>
    rcases List.mem_cons.mp ho with rfl | ho
    · exact accounts_act t peer s a
    · exact ih ho

theorem length_flatMap_leftOpen {os : List Outcome} (h : ∀ o ∈ os, o.Accounts) :
    (os.flatMap Outcome.leftOpen).length = os.countP Outcome.abandons := by
  induction os with
  | nil => rfl
  | cons o os ih =>
    obtain ⟨ho, hos⟩ := List.forall_mem_cons.mp h
    rw [List.flatMap_cons, List.length_append, List.countP_cons, ih hos, ho.length_leftOpen,
      Nat.add_comm]

/-- **A refusal is left open by each call that abandons it, and by no other.**  Whatever is done
with a transport, over any network and from any token on:

* each call accounts for its answers as `Outcome.Accounts` says.  In particular a refusal is
  released before the request is sent once more, and it is left open exactly if it cannot be read to
  its end, or if it asks for a token and the call brings none;
* so the refusals that a run leaves open are as many as the calls that have abandoned one. -/
theorem refusals_left_open (t : AuthTransport) (peer : Peer σ) (actions : List Action) (s : σ) :
    (∀ o ∈ outcomes peer t actions s, o.Accounts) ∧
      ((outcomes peer t actions s).flatMap Outcome.leftOpen).length =
        (outcomes peer t actions s).countP Outcome.abandons := by
  have haccounts : ∀ o ∈ outcomes peer t actions s, o.Accounts := fun _ ho =>
    accounts_of_mem_outcomes ho
  exact ⟨haccounts, length_flatMap_leftOpen haccounts⟩

/-- **Calls that get no token use up connections.**  A registry refuses each call, and its answer
could be read; the endpoint gives no token.  After `n` calls `n` refusals are open. -/
theorem leftOpen_of_denials :
    let realm := "https://auth.example.com/token"
    let denial : Response := ⟨403, [], .ok []⟩
    let t := sample (.password "u" "p" "")
    make "registry.example.com" "lib/app" (.password "u" "p" "") = .ok t ∧
      Request.make "GET" "https://registry.example.com/v2/" [] [] = .ok .sample ∧
      ∀ n, (outcomes Peer.scripted t (List.replicate n (.send .sample))
          (List.replicate n [.ok (refusal realm), .ok denial]).flatten).flatMap Outcome.leftOpen =
        List.replicate n ⟨.attempt, .sample, .ok (refusal realm), false⟩ := by
  intro realm denial t
  refine ⟨make_sample _, Request.make_sample, fun n => ?_⟩
  have happlies : t.appliesTo Request.sample.url = .ok true := by cbv
  have hread : Request.sample.read = .ok .sample := rfl
  obtain ⟨challenge, exchange, hasks, hexchange⟩ : ∃ challenge exchange,
      (refusal realm).AsksToken realm challenge ∧
        t.tokenRequest realm challenge = .ok exchange := by
    let challenge := Challenge.parse "Bearer realm=\"https://auth.example.com/token\""
    have hasks : (refusal realm).AsksToken realm challenge :=
      (reaction_eq_exchange_iff (t := t)).mp (by decide +kernel)
    have hmade : (t.tokenRequest realm challenge).isOk = true := by decide +kernel
    cases hexchange : t.tokenRequest realm challenge with
    | error e => rw [hexchange] at hmade; cases hmade
    | ok exchange => exact ⟨challenge, exchange, hasks, hexchange⟩
  have hdenied (rest : List (Except SendFailure Response)) :
      t.exchange Peer.scripted realm challenge (.ok denial :: rest) =
        (.error (.exchange ⟨realm, .status 403⟩), [⟨.exchange, exchange, .ok denial, true⟩],
          rest) := by
    rw [exchange_of_tokenRequest_eq_ok hexchange]
    rfl
  have hcall (rest : List (Except SendFailure Response)) :
      t.handle Peer.scripted .sample (.ok (refusal realm) :: .ok denial :: rest) =
        ⟨.error (.exchange ⟨realm, .status 403⟩), t, Request.sample.sent,
          [⟨.attempt, .sample, .ok (refusal realm), false⟩,
            ⟨.exchange, exchange, .ok denial, true⟩], rest⟩ :=
    handle_eq_of_exchange_eq_error happlies hread rfl rfl hasks (hdenied rest)
  induction n with
  | zero => rfl
  | succ n ih =>
    rw [List.replicate_succ, List.replicate_succ, List.flatten_cons, outcomes, act,
      List.cons_append, List.cons_append, List.nil_append]
    dsimp only
    rw [hcall, List.flatMap_cons, ih, List.replicate_succ]
    rfl

end AuthTransport
end RegistryAuth
