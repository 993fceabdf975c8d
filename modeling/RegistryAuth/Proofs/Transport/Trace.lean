import RegistryAuth.Proofs.Transport.Conversation

/-!
# The trace of one call

What a transport may send when a request is handed to it, and what it gives back:
`handle_trace`.  The messages are read off the ends that `Conversation` names.  Two facts
about all of them are drawn from there first: but for the exchange they are the request of
the caller (`Handling.restates`), and there are at most three (`Conversation.purposes`).

`sendings_of_unsendable` shows the three ways in which a call sends nothing at all.
-/

namespace RegistryAuth
namespace AuthTransport

variable {σ : Type}

/-! ## What is sent for a caller is the caller's request -/

theorem Equips.restates {t : AuthTransport} {request first : Request}
    (h : t.Equips request first) : request.Restates first := by
  unfold Equips at h
  split at h
  · rw [h]; exact .refl request
  · exact h.toRestates

theorem Retrial.restates {first left : Request} {refusal : Response} {credentials : CodeText}
    {rest : List Sending} {result : Except TransportError Response}
    (h : Retrial first refusal credentials rest result left) :
    ∀ m ∈ rest, first.Restates m.request := by
  cases h with
  | unread _ => exact List.forall_mem_nil _
  | unwritable _ _ => exact List.forall_mem_nil _
  | sent _ authorized => exact List.forall_mem_singleton.mpr authorized.toRestates

/-- All messages of a conversation but the exchange are the request of the caller. -/
theorem Conversation.restates {t t' : AuthTransport} {first left : Request}
    {sendings : List Sending} {result : Except TransportError Response}
    (h : t.Conversation first sendings result t' left) :
    ∀ m ∈ sendings, m.purpose ≠ .exchange → first.Restates m.request := by
  have hretrial : ∀ {refusal credentials rest result left},
      Retrial first refusal credentials rest result left →
        ∀ m ∈ rest, m.purpose ≠ .exchange → first.Restates m.request :=
    fun h m hm _ => h.restates m hm
  cases h with
  | unanswered => exact List.forall_mem_singleton.mpr fun _ => .refl first
  | accepted _ => exact List.forall_mem_singleton.mpr fun _ => .refl first
  | presented _ retrial =>
    exact List.forall_mem_cons.mpr ⟨fun _ => .refl first, hretrial retrial⟩
  | unexchangeable _ _ => exact List.forall_mem_singleton.mpr fun _ => .refl first
  | refused _ _ _ =>
    refine List.forall_mem_cons.mpr ⟨fun _ => .refl first, ?_⟩
    exact List.forall_mem_singleton.mpr fun hpurpose => absurd rfl hpurpose
  | exchanged _ _ _ retrial =>
    refine List.forall_mem_cons.mpr ⟨fun _ => .refl first, ?_⟩
    exact List.forall_mem_cons.mpr ⟨fun hpurpose => absurd rfl hpurpose, hretrial retrial⟩

/-- All messages that are sent for a request but the exchange are that request. -/
theorem Handling.restates {t t' : AuthTransport} {request left : Request}
    {sendings : List Sending} {result : Except TransportError Response}
    (h : t.Handling request sendings result t' left) :
    ∀ m ∈ sendings, m.purpose ≠ .exchange → request.Restates m.request := by
  cases h with
  | unreadable _ => exact List.forall_mem_nil _
  | passed _ => exact List.forall_mem_singleton.mpr fun _ => .refl request
  | unread _ _ => exact List.forall_mem_nil _
  | unequipped _ _ _ _ => exact List.forall_mem_nil _
  | conversed _ read_eq equips conversation =>
    intro m hm hpurpose
    have hfirst := (Request.restates_of_read read_eq).trans equips.restates
    exact hfirst.trans (conversation.restates m hm hpurpose)

/-! ## What a call leaves behind -/

theorem Retrial.url_left {first left : Request} {refusal : Response} {credentials : CodeText}
    {rest : List Sending} {result : Except TransportError Response}
    (h : Retrial first refusal credentials rest result left) : left.url = first.url := by
  cases h with
  | unread _ => rfl
  | unwritable _ _ => rfl
  | sent _ authorized => exact authorized.url_eq

theorem Conversation.url_left {t t' : AuthTransport} {first left : Request}
    {sendings : List Sending} {result : Except TransportError Response}
    (h : t.Conversation first sendings result t' left) : left.url = first.url := by
  cases h with
  | unanswered => rfl
  | accepted _ => rfl
  | presented _ retrial => exact retrial.url_left
  | unexchangeable _ _ => rfl
  | refused _ _ _ => rfl
  | exchanged _ _ _ retrial => exact retrial.url_left

/-- The request that is left goes where the request of the caller goes. -/
theorem Handling.url_left {t t' : AuthTransport} {request left : Request}
    {sendings : List Sending} {result : Except TransportError Response}
    (h : t.Handling request sendings result t' left) : left.url = request.url := by
  cases h with
  | unreadable _ => rfl
  | passed _ => rfl
  | unread _ _ => rfl
  | unequipped _ read_eq _ _ => exact (Request.restates_of_read read_eq).url_eq
  | conversed _ read_eq equips conversation =>
    have hfirst := (Request.restates_of_read read_eq).trans equips.restates
    exact conversation.url_left.trans hfirst.url_eq

/-- The transport that is left belongs to the same registry. -/
theorem Handling.endpoint_eq {t t' : AuthTransport} {request left : Request}
    {sendings : List Sending} {result : Except TransportError Response}
    (h : t.Handling request sendings result t' left) : t'.endpoint = t.endpoint := by
  cases h with
  | unreadable _ => rfl
  | passed _ => rfl
  | unread _ _ => rfl
  | unequipped _ _ _ _ => rfl
  | conversed _ _ _ conversation => cases conversation <;> rfl

/-! ## The trace of one call -/

/-- What the messages of a conversation are sent for: there are at most three of them, and
neither an exchange nor a retry is sent twice. -/
theorem Conversation.purposes {t t' : AuthTransport} {first left : Request}
    {sendings : List Sending} {result : Except TransportError Response}
    (h : t.Conversation first sendings result t' left) :
    sendings.map Sending.purpose ∈
      [[.attempt], [.attempt, .retry], [.attempt, .exchange], [.attempt, .exchange, .retry]] := by
  have hretrial : ∀ {refusal credentials rest result left},
      Retrial first refusal credentials rest result left →
        rest.map Sending.purpose = [] ∨ rest.map Sending.purpose = [.retry] := by
    intro refusal credentials rest result left h
    cases h with
    | unread _ => exact Or.inl rfl
    | unwritable _ _ => exact Or.inl rfl
    | sent _ _ => exact Or.inr rfl
  cases h with
  | unanswered => simp
  | accepted _ => simp
  | presented _ retrial => rcases hretrial retrial with h | h <;> simp [h]
  | unexchangeable _ _ => simp
  | refused _ _ _ => simp
  | exchanged _ _ _ retrial => rcases hretrial retrial with h | h <;> simp [h]

/-- **The trace of one call.**  For every token at hand, identity, request and network, the
messages that are sent are those that the network sees, and all but the exchange are the
request of the caller, with other credentials at most.

* Where the host of the URL cannot be read, nothing is sent.
* A request that goes elsewhere is sent once and as it is, and its reply is the result.
* A request to the registry is read first, and nothing is sent where that fails.  Then there is
  the request with the token at hand, if there is one, and else as it is; and nothing is sent
  where the character set of its headers, or UTF-8 if none is settled, does not have all of that
  token.
* Then follows what `Conversation` admits: at most one exchange, and at most one retry behind
  it. -/
theorem handle_trace (t : AuthTransport) (peer : Peer σ) (request : Request) (s : σ) :
    let h := t.handle peer request s
    peer.Logs s h.sendings h.peer ∧
    (∀ m ∈ h.sendings, m.purpose ≠ .exchange → request.Restates m.request) ∧
    match t.appliesTo request.url with
    | .error e => h.sendings = [] ∧ h.result = .error (.hostname e)
    | .ok false =>
      ∃ reply, h.sendings = [⟨.attempt, request, reply, false⟩] ∧ h.result = reply.mapError .send
    | .ok true =>
      (∃ e, request.read = .error e ∧ h.sendings = [] ∧ h.result = .error (.body e)) ∨
      (∃ read token e, request.read = .ok read ∧ t.token = some token ∧
        read.authorize (bearer token) = .error e ∧
        (∃ c ∈ (bearer token).codes, (read.headers.charset.getD .utf8).has c = false) ∧
        h.sendings = [] ∧ h.result = .error (.header e)) ∨
      ∃ read first, request.read = .ok read ∧ t.Equips read first ∧
        t.Conversation first h.sendings h.result h.carrier h.request ∧
        h.sendings.map Sending.purpose ∈
          [[.attempt], [.attempt, .retry], [.attempt, .exchange],
            [.attempt, .exchange, .retry]] := by
  obtain ⟨hlogs, hhandling⟩ := handle_handling t peer request s
  generalize t.handle peer request s = h at hlogs hhandling
  obtain ⟨result, carrier, left, sendings, s'⟩ := h
  refine ⟨hlogs, hhandling.restates, ?_⟩
  cases hhandling with
  | unreadable applies => rw [applies]; exact ⟨rfl, rfl⟩
  | passed applies => rw [applies]; exact ⟨_, rfl, rfl⟩
  | unread applies read_eq =>
    rw [applies]
    exact Or.inl ⟨_, read_eq, rfl, rfl⟩
  | unequipped applies read_eq token_eq authorize_eq =>
    rw [applies]
    have hlacks := Request.exists_authorize_error_iff.mp ⟨_, authorize_eq⟩
    exact Or.inr (Or.inl ⟨_, _, _, read_eq, token_eq, authorize_eq, hlacks, rfl, rfl⟩)
  | conversed applies read_eq equips conversation =>
    rw [applies]
    exact Or.inr (Or.inr ⟨_, _, read_eq, equips, conversation, conversation.purposes⟩)

/-- **Not every request is sent.**

* A host that looks like an encoded name and is none cannot be read, so it is not known
  where the request goes; the headers may still name a host, so that there is such a
  request.
* The body of a request may come from a source that fails.
* A request that was sent before has its headers settled, and a token that has come meanwhile
  may not fit them.  A token with half of a surrogate pair fits no headers. -/
theorem sendings_of_unsendable :
    (∃ t request,
      make "registry.example.com" "lib/app" (.password "u" "p" "") = .ok t ∧
      Request.make "GET" "https://xn--/v2/" [("Host", "registry.example.com")] [] = .ok request ∧
      ∀ (peer : Peer Unit) (s : Unit), (t.handle peer request s).sendings = [] ∧
        (t.handle peer request s).result = .error (.hostname .emptyForm)) ∧
    ∃ t request,
      make "registry.example.com" "lib/app" (.password "u" "p" "") = .ok t ∧
      Request.make "GET" "https://registry.example.com/v2/" [] [] = .ok request ∧
      ∀ (peer : Peer Unit) (s : Unit),
        (∀ failure,
          let h := t.handle peer
            { request with body := .source (.error failure) (.error failure) } s
          h.sendings = [] ∧ h.result = .error (.body failure)) ∧
        (∀ token, token = .str "é" →
          let h := { t with token := some token }.handle peer request.sent s
          h.sendings = [] ∧ h.result = .error (.header ⟨.ascii, 7, [.char 'é']⟩)) ∧
        ∀ half token, token = .str (.broken "" half []) →
          let h := { t with token := some token }.handle peer request s
          h.sendings = [] ∧ h.result = .error (.header ⟨.utf8, 7, [.half half]⟩) := by
  refine ⟨⟨sample _, ⟨"GET", ⟨"https".toList, [], "xn--".toList, none, "/v2/".toList, none, none⟩,
      ⟨[("Host", Text.Utf8.encodeString "registry.example.com")], none⟩, .held []⟩,
      make_sample _, by cbv, fun peer s => ?_⟩,
    sample _, Request.sample, make_sample _, Request.make_sample, fun peer s => ⟨?_, ?_, ?_⟩⟩
  · rw [handle_of_appliesTo_eq_error (e := .emptyForm) (by cbv)]
    exact ⟨rfl, rfl⟩
  · intro failure
    rw [handle_of_read_eq_error (e := failure) rfl rfl]
    exact ⟨rfl, rfl⟩
  · rintro token rfl
    rw [handle_of_equip_eq_error (e := ⟨.ascii, 7, [.char 'é']⟩) rfl rfl rfl]
    exact ⟨rfl, rfl⟩
  · rintro half token rfl
    rw [handle_of_equip_eq_error (e := ⟨.utf8, 7, [.half half]⟩) rfl rfl rfl]
    exact ⟨rfl, rfl⟩

end AuthTransport
end RegistryAuth
