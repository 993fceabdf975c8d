import RegistryAuth.Proofs.Transport.HonestRegistry
import RegistryAuth.Proofs.Transport.Trace

/-!
# Progress with an honest registry

With an honest registry (`Peer.IsHonest`) no call fails, and no exchange is made that is not
needed.

* One call (`handle_of_held`): it ends with an answer of status 200 and leaves the valid token at
  hand.  It makes one exchange if the token at hand was not the valid one, and none if it was.
* A run (`calls_of_orderly`), in which the valid token may change between calls.  The invariant
  is `Held`: a token at hand was given out in this run, so that it is not the one that the
  registry changes to.

## What honesty does not grant

The registry has to name a realm that can be asked, for a query that is not too long, and has to
give out tokens in ASCII.  With each of these left out a call may fail (`failsAt_of_honest`).
-/

namespace RegistryAuth
namespace AuthTransport

variable {σ : Type}

/-! ## What comes of an answer -/

section Converse

variable {t : AuthTransport} {peer : Peer σ} {first : Request} {s : σ} {response : Response}

/-- An answer that is no refusal is given back. -/
theorem converse_of_admitted (hreply : (peer.send first s).1 = .ok response)
    (hstatus : response.status ≠ 401) :
    t.converse peer first s =
      ⟨.ok response, t, first.sent, [⟨.attempt, first, .ok response, false⟩],
        (peer.send first s).2⟩ := by
  have haccept : t.reaction response = .accept := by
    rw [reaction, challenge?, if_neg hstatus]
  simp only [converse, hreply, haccept]

/-- A refusal that asks for a token is answered with the token that the exchange brings. -/
theorem converse_of_issued {realm : String} {challenge : Challenge} {exchange : Request}
    {issue : Response} {token : Json} (hreply : (peer.send first s).1 = .ok response)
    (hasks : response.AsksToken realm challenge)
    (hexchange : t.tokenRequest realm challenge = .ok exchange)
    (hissue : (peer.send exchange (peer.send first s).2).1 = .ok issue)
    (htoken : issue.issued? = some token) :
    t.converse peer first s =
      { t with token := some token }.retry peer first response
        [⟨.exchange, exchange, .ok issue, isReadable (.ok issue)⟩] (bearer token)
        (peer.send exchange (peer.send first s).2).2 := by
  simp only [converse, hreply, reaction_eq_exchange_iff.mpr hasks,
    exchange_of_tokenRequest_eq_ok hexchange, hissue, Token.ofReply_of_issued realm htoken]

end Converse

/-- A token at hand is a text in ASCII. -/
def HoldsAscii (t : AuthTransport) : Prop :=
  ∀ token, t.token = some token →
    ∃ text : String, token = .str text ∧ ∀ c ∈ text.toList, Headers.isAscii c = true

theorem holdsAscii_of_token_eq_none {t : AuthTransport} (h : t.token = none) : t.HoldsAscii := by
  intro token htoken
  rw [h] at htoken
  cases htoken

/-- A token in ASCII can be put on each request. -/
theorem exists_equip {t : AuthTransport} (hascii : t.HoldsAscii) (request : Request) :
    ∃ first, t.equip request = .ok first ∧ t.Equips request first := by
  suffices ∃ first, t.equip request = .ok first from
    this.imp fun _ h => ⟨h, equips_of_equip h⟩
  unfold equip
  cases htoken : t.token with
  | none => exact ⟨request, rfl⟩
  | some token =>
    obtain ⟨text, rfl, htext⟩ := hascii token htoken
    exact ⟨_, Request.authorize_of_isAscii (Authorization.isAscii_of_mem_bearer htext) request⟩

/-! ## One call -/

/-- What the transport has to ask for, when it is challenged, fits a URL if it has to stand in
one. -/
def AsksBriefly (t : AuthTransport) (peer : Peer σ) : Prop :=
  ∀ request s response header, (peer.send request s).1 = .ok response →
    response.header? challengeHeader = some header →
    let challenge := Challenge.parse header
    (∃ token address, t.identity = .token token address) ∨
      (Form.encodeStrings (Token.queryFields (Token.serviceOf challenge)
        (Token.scopeOf challenge t.scope))).toList.length ≤ Url.maxLength

/-- A call is answered, and leaves the valid token at hand. -/
structure Succeeds (t : AuthTransport) (valid : σ → String) (s : σ)
    (h : Handled AuthTransport σ) : Prop where
  result : ∃ response, h.result = .ok response ∧ response.status = 200
  carrier : h.carrier = { t with token := some (.str (valid s)) }
  keeps : valid h.peer = valid s

section Call

variable {t : AuthTransport} {peer : Peer σ} {valid : σ → String} {realm : String}
  {plain request read : Request} {s : σ}

/-- What is sent at first goes to the registry, as the request does. -/
theorem Equips.goesTo_iff {first : Request} (h : t.Equips request first) (u : Url) :
    first.GoesTo u ↔ request.GoesTo u :=
  h.restates.goesTo_iff u

/-- With the valid token at hand, the registry is asked once. -/
theorem handle_of_valid (hpeer : peer.IsHonest valid realm plain.url) (htoken : t.HoldsAscii)
    (happlies : t.appliesTo request.url = .ok true) (hread : request.read = .ok read)
    (hplace : ¬ read.GoesTo plain.url) (hheld : t.token = some (.str (valid s))) :
    t.Succeeds valid s (t.handle peer request s) ∧
      (t.handle peer request s).sendings.map Sending.purpose = [.attempt] := by
  obtain ⟨first, hequip, hequips⟩ := exists_equip htoken read
  obtain ⟨text, htext, hascii⟩ := htoken _ hheld
  have hvalid : valid s = text := CodeText.whole.inj (Json.str.inj htext)
  have hpresents : first.Presents (valid s) := by
    rw [Equips, hheld] at hequips
    exact (hequips.presents_iff (hvalid ▸ hascii) _).mpr rfl
  obtain ⟨response, hreply, hstatus⟩ :=
    hpeer.admits first s (mt (hequips.goesTo_iff _).mp hplace) hpresents
  rw [handle_of_equip_eq_ok happlies hread hequip,
    converse_of_admitted hreply (by rw [hstatus]; decide)]
  exact ⟨⟨⟨response, rfl, hstatus⟩, by rw [← hheld], hpeer.keeps first s⟩, rfl⟩

/-- Without the valid token at hand, it is fetched, and the request is to be sent once more. -/
theorem exists_handle_eq_retry (hplain : Request.make "GET" realm [] [] = .ok plain)
    (hpeer : peer.IsHonest valid realm plain.url) (hbrief : t.AsksBriefly peer)
    (happlies : t.appliesTo request.url = .ok true) (hread : request.read = .ok read)
    (hplace : ¬ read.GoesTo plain.url) (hascii : t.HoldsAscii) {first : Request}
    (hequip : t.equip read = .ok first) (hstale : t.token.map Json.text ≠ some (valid s))
    (hown : ¬ read.Presents (valid s)) :
    ∃ refusal body exchange issue s', refusal.body = .ok body ∧ valid s' = valid s ∧
      t.handle peer request s =
        { t with token := some (.str (valid s)) }.retry peer first refusal
          [⟨.exchange, exchange, .ok issue, isReadable (.ok issue)⟩]
          (bearer (.str (valid s))) s' := by
  have hequips := equips_of_equip hequip
  have hpresents : ¬ first.Presents (valid s) := by
    cases htoken : t.token with
    | none =>
      rw [Equips, htoken] at hequips
      rwa [hequips]
    | some token =>
      obtain ⟨text, rfl, htext⟩ := hascii token htoken
      rw [Equips, htoken] at hequips
      rw [hequips.presents_iff htext]
      intro heq
      exact hstale (by rw [htoken, Option.map_some, ← heq]; rfl)
  obtain ⟨refusal, header, body, hreply, hstatus, hheader, hbearer, hbody⟩ :=
    hpeer.refuses first s (mt (hequips.goesTo_iff _).mp hplace) hpresents
  obtain ⟨hscheme, hrealm⟩ := hbearer.parse_eq
  have hasks : refusal.AsksToken realm (Challenge.parse header) :=
    ⟨⟨hstatus, header, hheader, rfl⟩, hscheme, hrealm⟩
  obtain ⟨exchange, hexchange, hgoes⟩ :=
    Token.exists_request hplain t.identity (hbrief first s refusal header hreply hheader)
  obtain ⟨issue, hissue, htoken⟩ := hpeer.issues exchange (peer.send first s).2 hgoes
  rw [hpeer.keeps first s] at htoken
  refine ⟨refusal, body, exchange, issue, _, hbody, ?_,
    (handle_of_equip_eq_ok happlies hread hequip peer s).trans
      (converse_of_issued hreply hasks hexchange hissue htoken)⟩
  rw [hpeer.keeps, hpeer.keeps]

/-- Without the valid token at hand, it is fetched, and the registry is asked twice. -/
theorem handle_of_stale (hplain : Request.make "GET" realm [] [] = .ok plain)
    (hpeer : peer.IsHonest valid realm plain.url) (hbrief : t.AsksBriefly peer)
    (hascii : ∀ c ∈ (valid s).toList, Headers.isAscii c = true)
    (happlies : t.appliesTo request.url = .ok true) (hread : request.read = .ok read)
    (hplace : ¬ read.GoesTo plain.url) (htoken : t.HoldsAscii)
    (hstale : t.token.map Json.text ≠ some (valid s)) (hown : ¬ read.Presents (valid s)) :
    t.Succeeds valid s (t.handle peer request s) ∧
      (t.handle peer request s).sendings.map Sending.purpose = [.attempt, .exchange, .retry] := by
  obtain ⟨first, hequip, hequips⟩ := exists_equip htoken read
  obtain ⟨refusal, body, exchange, issue, s', hbody, hkeeps, hhandle⟩ :=
    exists_handle_eq_retry hplain hpeer hbrief happlies hread hplace htoken hequip hstale hown
  obtain ⟨second, hsecond⟩ :
      ∃ second, first.sent.authorize (bearer (.str (valid s))) = .ok second :=
    ⟨_, Request.authorize_of_isAscii (Authorization.isAscii_of_mem_bearer hascii) _⟩
  have hauthorized := Request.authorized_of_authorize hsecond
  have hgoes : ¬ second.GoesTo plain.url := by
    have hfirst := Request.restates_sent (isRead_of_equip (Request.isRead_of_read hread) hequip)
    rw [(hfirst.trans hauthorized.toRestates).goesTo_iff, hequips.goesTo_iff]
    exact hplace
  obtain ⟨response, hadmitted, hok⟩ :=
    hpeer.admits second s' hgoes ((hauthorized.presents_iff hascii _).mpr hkeeps.symm)
  rw [hhandle, retry_of_authorize_eq_ok _ _ _ _ hbody hsecond]
  exact ⟨⟨⟨response, by rw [hadmitted]; rfl, hok⟩, rfl, by rw [hpeer.keeps, hkeeps]⟩, rfl⟩

end Call

/-! ## Runs in which the valid token changes -/

/-- What happens to a registry: somebody calls, or its state becomes another between calls. -/
inductive Event (σ : Type) where
  | call (request : Request)
  | change (s : σ)

/-- A call of a run: the token that was at hand and the one that was valid when it began, what
was given back, and what was sent. -/
structure Call where
  held : Option Json
  valid : String
  result : Except TransportError Response
  sendings : List Sending

namespace Call

/-- There was no token at hand when the call began, or another than the valid one. -/
def isStale (c : Call) : Bool := c.held.map Json.text ≠ some c.valid

/-- The number of exchanges that were made for the call. -/
def exchanges (c : Call) : Nat := (c.sendings.map Sending.purpose).count .exchange

/-- The call is answered with status 200, and one exchange is made for it if there has to be
one. -/
structure IsServed (c : Call) : Prop where
  result : ∃ response, c.result = .ok response ∧ response.status = 200
  exchanges_eq : c.exchanges = if c.isStale then 1 else 0

end Call

/-- The calls of a run. -/
def calls (peer : Peer σ) (valid : σ → String) : AuthTransport → List (Event σ) → σ → List Call
  | _, [], _ => []
  | t, .call request :: events, s =>
    let h := t.handle peer request s
    ⟨t.token, valid s, h.result, h.sendings⟩ :: calls peer valid h.carrier events h.peer
  | t, .change s :: events, _ => calls peer valid t events s

/-- How often a run comes to a call for the first time after a change, and, if one is due at the
start, for the first time at all. -/
def renewals : Bool → List (Event σ) → Nat
  | _, [] => 0
  | isDue, .call _ :: events => (if isDue then 1 else 0) + renewals false events
  | _, .change _ :: events => renewals true events

/-- The calls of the run go to the registry and not to the endpoint at `place`, their bodies can
be read, and they present no valid token of their own.  A token that becomes valid is not one of
those in `issued`, which were valid at calls before. -/
inductive Orderly (t : AuthTransport) (valid : σ → String) (place : Url) :
    List String → String → List (Event σ) → Prop where
  | nil {issued : List String} {current : String} : Orderly t valid place issued current []
  | call {issued : List String} {current : String} {request : Request} {events : List (Event σ)}
      (applies : t.appliesTo request.url = .ok true) (readable : ∃ read, request.read = .ok read)
      (elsewhere : ¬ request.GoesTo place) (unpresented : ¬ request.Presents current)
      (rest : Orderly t valid place (current :: issued) current events) :
      Orderly t valid place issued current (.call request :: events)
  | change {issued : List String} {current : String} {s : σ} {events : List (Event σ)}
      (isNew : valid s ∉ issued) (rest : Orderly t valid place issued (valid s) events) :
      Orderly t valid place issued current (.change s :: events)

/-- What holds of the token at hand in an orderly run: it was issued, and it is the valid one
unless a renewal is due. -/
structure Held (held : Option Json) (issued : List String) (current : String) (isDue : Bool) :
    Prop where
  was_issued : ∀ token, held = some token → ∃ v ∈ issued, token = .str (.whole v)
  ascii : ∀ v ∈ issued, ∀ c ∈ v.toList, Headers.isAscii c = true
  due_iff : held.map Json.text ≠ some current ↔ isDue = true

namespace Held

variable {held : Option Json} {issued : List String} {current : String} {isDue : Bool}

/-- A run begins without a token. -/
theorem start (current : String) : Held none [] current true where
  was_issued _ htoken := by cases htoken
  ascii := List.forall_mem_nil _
  due_iff := by simp

/-- A token at hand is one in ASCII. -/
theorem holdsAscii {t : AuthTransport} (h : Held t.token issued current isDue) : t.HoldsAscii := by
  intro token htoken
  obtain ⟨v, hv, rfl⟩ := h.was_issued token htoken
  exact ⟨v, rfl, h.ascii v hv⟩

/-- The valid token is at hand after a call. -/
theorem call (h : Held held issued current isDue)
    (hascii : ∀ c ∈ current.toList, Headers.isAscii c = true) :
    Held (some (.str current)) (current :: issued) current false where
  was_issued _ htoken := ⟨current, List.mem_cons_self, (Option.some.inj htoken).symm⟩
  ascii := List.forall_mem_cons.mpr ⟨hascii, h.ascii⟩
  due_iff := by simp

/-- After a change, the token at hand is not the valid one. -/
theorem change (h : Held held issued current isDue) {next : String} (hnext : next ∉ issued) :
    Held held issued next true where
  was_issued := h.was_issued
  ascii := h.ascii
  due_iff := by
    refine ⟨fun _ => rfl, fun _ heq => ?_⟩
    obtain ⟨token, htoken, htext⟩ := Option.map_eq_some_iff.mp heq
    obtain ⟨v, hv, rfl⟩ := h.was_issued token htoken
    exact hnext (CodeText.whole.inj htext ▸ hv)

end Held

/-- If each call is served, as many exchanges are made as calls began without the valid token. -/
theorem sum_exchanges_eq {run : List Call} (h : ∀ c ∈ run, c.IsServed) :
    (run.map Call.exchanges).sum = run.countP Call.isStale := by
  induction run with
  | nil => rfl
  | cons c run ih =>
    obtain ⟨hc, hrun⟩ := List.forall_mem_cons.mp h
    rw [List.map_cons, List.sum_cons, List.countP_cons, ih hrun, hc.exchanges_eq, Nat.add_comm]

section Run

variable {t : AuthTransport} {peer : Peer σ} {valid : σ → String} {realm : String}
  {plain : Request}

/-- One call of an orderly run. -/
theorem handle_of_held (hplain : Request.make "GET" realm [] [] = .ok plain)
    (hpeer : peer.IsHonest valid realm plain.url) (hbrief : t.AsksBriefly peer)
    {request : Request} {s : σ} (hascii : ∀ c ∈ (valid s).toList, Headers.isAscii c = true)
    (happlies : t.appliesTo request.url = .ok true) (hreadable : ∃ read, request.read = .ok read)
    (hplace : ¬ request.GoesTo plain.url) (hown : ¬ request.Presents (valid s))
    {issued : List String} {isDue : Bool} (hheld : Held t.token issued (valid s) isDue) :
    t.Succeeds valid s (t.handle peer request s) ∧
      ((t.handle peer request s).sendings.map Sending.purpose).count .exchange =
        if isDue then 1 else 0 := by
  obtain ⟨read, hread⟩ := hreadable
  have hgoes := (Request.restates_of_read hread).goesTo_iff plain.url
  have hpresents := Request.presents_of_read hread (valid s)
  cases isDue with
  | true =>
    obtain ⟨hsucceeds, hpurposes⟩ := handle_of_stale hplain hpeer hbrief hascii happlies hread
      (mt hgoes.mp hplace) hheld.holdsAscii (hheld.due_iff.mpr rfl) (mt hpresents.mp hown)
    exact ⟨hsucceeds, by rw [hpurposes]; rfl⟩
  | false =>
    have hvalid : t.token = some (.str (valid s)) := by
      have heq : t.token.map Json.text = some (valid s) :=
        not_not.mp (mt hheld.due_iff.mp Bool.false_ne_true)
      obtain ⟨token, htoken, htext⟩ := Option.map_eq_some_iff.mp heq
      obtain ⟨v, -, rfl⟩ := hheld.was_issued token htoken
      rw [htoken, ← htext, Json.text_str]
    obtain ⟨hsucceeds, hpurposes⟩ := handle_of_valid hpeer hheld.holdsAscii happlies hread
      (mt hgoes.mp hplace) hvalid
    exact ⟨hsucceeds, by rw [hpurposes]; rfl⟩

/-- In an orderly run each call is served, and there are as many calls without the valid token
as renewals. -/
theorem calls_of_orderly (hplain : Request.make "GET" realm [] [] = .ok plain)
    (hpeer : peer.IsHonest valid realm plain.url) (hbrief : t.AsksBriefly peer)
    (hascii : ∀ s, ∀ c ∈ (valid s).toList, Headers.isAscii c = true)
    {issued : List String} {current : String} {events : List (Event σ)}
    (h : Orderly t valid plain.url issued current events) {held : Option Json} {isDue : Bool}
    {s : σ} (hcurrent : valid s = current) (hheld : Held held issued current isDue) :
    let run := calls peer valid { t with token := held } events s
    (∀ c ∈ run, c.IsServed) ∧ run.countP Call.isStale = renewals isDue events := by
  -- the token at hand is the only thing about the transport that a call changes
  induction h generalizing held isDue s with
  | nil => exact ⟨List.forall_mem_nil _, rfl⟩
  | @call issued current request events happlies hreadable helsewhere hunpresented _ ih =>
    subst hcurrent
    obtain ⟨⟨hresult, hcarrier, hkeeps⟩, hexchanges⟩ :=
      handle_of_held (t := { t with token := held }) hplain hpeer hbrief (hascii s) happlies
        hreadable helsewhere hunpresented hheld
    obtain ⟨hserved, hcount⟩ := ih hkeeps (hheld.call (hascii s))
    have hstale : decide (held.map Json.text ≠ some (valid s)) = isDue :=
      Bool.eq_iff_iff.mpr (decide_eq_true_iff.trans hheld.due_iff)
    rw [calls, hcarrier]
    refine ⟨List.forall_mem_cons.mpr ⟨⟨hresult, ?_⟩, hserved⟩, ?_⟩
    · exact hexchanges.trans (by rw [Call.isStale, hstale])
    · rw [List.countP_cons, hcount, renewals, Call.isStale, hstale, Nat.add_comm]
  | change hnew _ ih => exact ih rfl (hheld.change hnew)

/-- **Progress.**  A transport is made, and the registry is honest; its tokens are in ASCII, and
a request can be made to its realm.  Between the calls the valid token may change any number of
times.

* Each call is answered with status 200.
* One exchange is made for a call that began without a token or with one that is not valid any
  more, and none for the other calls.
* So there are as many exchanges as such calls; and there are as many as there are calls that
  come first in the run or first after a change, since a change costs one refresh. -/
theorem exchanges_of_orderly {address repo : String} {identity : Identity}
    (hmake : make address repo identity = .ok t)
    (hplain : Request.make "GET" realm [] [] = .ok plain)
    (hpeer : peer.IsHonest valid realm plain.url) (hbrief : t.AsksBriefly peer)
    (hascii : ∀ s, ∀ c ∈ (valid s).toList, Headers.isAscii c = true)
    {events : List (Event σ)} {s : σ}
    (h : Orderly t valid plain.url [] (valid s) events) :
    let run := calls peer valid t events s
    (∀ c ∈ run, ∃ response, c.result = .ok response ∧ response.status = 200) ∧
      (∀ c ∈ run, c.exchanges = if c.isStale then 1 else 0) ∧
      (run.map Call.exchanges).sum = run.countP Call.isStale ∧
      (run.map Call.exchanges).sum = renewals true events := by
  intro run
  have hrun : (∀ c ∈ run, c.IsServed) ∧ run.countP Call.isStale = renewals true events := by
    obtain ⟨endpoint, -, rfl⟩ := make_eq_ok hmake
    exact calls_of_orderly hplain hpeer hbrief hascii h rfl (.start _)
  obtain ⟨hserved, hstale⟩ := hrun
  have hsum := sum_exchanges_eq hserved
  exact ⟨fun c hc => (hserved c hc).result, fun c hc => (hserved c hc).exchanges_eq, hsum,
    hsum.trans hstale⟩

end Run

/-- The endpoint at which the samples of a registry give out tokens. -/
def samplePlace : Url :=
  ⟨"https".toList, [], "auth.example.com".toList, none, "/token".toList, none, none⟩

theorem make_samplePlace : Request.make "GET" "https://auth.example.com/token" [] [] =
    .ok ⟨"GET", samplePlace, .empty, .held []⟩ := rfl

/-- What is asked of a registry that names nothing but a realm is short. -/
theorem asksBriefly_sample (valid : σ → String) :
    (sample (.password "u" "p" "")).AsksBriefly
      (Peer.honest "https://auth.example.com/token" samplePlace valid) := by
  intro request s response header hreply hheader
  right
  rw [Peer.eq_of_header?_honest hreply hheader]
  decide +kernel

/-- The token is fetched, used again, and fetched anew when the registry has changed it: three
calls, two exchanges. -/
theorem exchanges_of_two_tokens :
    let valid : Bool → String := fun changed => if changed then "t2" else "t1"
    let peer := Peer.honest "https://auth.example.com/token" samplePlace valid
    let events : List (Event Bool) :=
      [.call .sample, .call .sample, .change true, .call .sample]
    ∃ t, make "registry.example.com" "lib/app" (.password "u" "p" "") = .ok t ∧
      Request.make "GET" "https://registry.example.com/v2/" [] [] = .ok .sample ∧
      Request.make "GET" "https://auth.example.com/token" [] [] =
        .ok ⟨"GET", samplePlace, .empty, .held []⟩ ∧
      peer.IsHonest valid "https://auth.example.com/token" samplePlace ∧ t.AsksBriefly peer ∧
      Orderly t valid samplePlace [] (valid false) events ∧
      let run := calls peer valid t events false
      (∀ c ∈ run, ∃ response, c.result = .ok response ∧ response.status = 200) ∧
      (∀ c ∈ run, c.exchanges = if c.isStale then 1 else 0) ∧
      (run.map Call.exchanges).sum = run.countP Call.isStale ∧
      (run.map Call.exchanges).sum = 2 := by
  intro valid peer events
  have hhonest : peer.IsHonest valid "https://auth.example.com/token" samplePlace :=
    Peer.isHonest_honest samplePlace (by decide) (by decide) (by
      rintro (_ | _) <;> exact Json.eq_some_str (by decide +kernel))
  have hascii : ∀ s, ∀ c ∈ (valid s).toList, Headers.isAscii c = true := by
    rintro (_ | _) <;> exact List.all_eq_true.mp (by decide)
  have horderly :
      Orderly (sample (.password "u" "p" "")) valid samplePlace [] (valid false) events :=
    .call rfl ⟨_, rfl⟩ (by decide) (by decide +kernel) <|
      .call rfl ⟨_, rfl⟩ (by decide) (by decide +kernel) <| .change (by decide) <|
        .call rfl ⟨_, rfl⟩ (by decide) (by decide +kernel) .nil
  exact ⟨_, make_sample _, Request.make_sample, make_samplePlace, hhonest, asksBriefly_sample _,
    horderly, exchanges_of_orderly (make_sample _) make_samplePlace hhonest (asksBriefly_sample _)
      hascii horderly⟩

/-! ## Honest registries with which calls fail -/

/-- The registry with that realm and that token is honest, and a call to it is orderly; and yet
it fails. -/
structure FailsAt (t : AuthTransport) (realm : String) (place : Url) (token : String)
    (e : TransportError) : Prop where
  honest : (Peer.honest realm place fun _ : Unit => token).IsHonest (fun _ => token) realm place
  orderly : Orderly t (fun _ : Unit => token) place [] token [.call .sample]
  result : (calls (Peer.honest realm place fun _ : Unit => token) (fun _ => token) t
    [.call .sample] ()).map Call.result = [.error e]

theorem not_goesTo_samplePlace : ¬ Request.sample.GoesTo samplePlace := by decide

/-- A token in another script cannot be put on a request that was sent before. -/
theorem failsAt_of_foreign_token : (sample (.password "u" "p" "")).FailsAt
    "https://auth.example.com/token" samplePlace "é" (.header ⟨.ascii, 7, [.char 'é']⟩) := by
  have hhonest :
      (Peer.honest "https://auth.example.com/token" samplePlace fun _ : Unit => "é").IsHonest
        (fun _ => "é") "https://auth.example.com/token" samplePlace :=
    Peer.isHonest_honest samplePlace (by decide) (by decide) fun _ =>
      Json.eq_some_str (by decide +kernel)
  have hown : ¬ Request.sample.Presents "é" := by decide +kernel
  have hread : Request.sample.read = .ok .sample := rfl
  have hsecond : Request.sample.sent.authorize (bearer (.str "é")) =
      .error ⟨.ascii, 7, [.char 'é']⟩ := by cbv
  obtain ⟨refusal, body, exchange, issue, s', hbody, -, hhandle⟩ :=
    exists_handle_eq_retry (s := ()) make_samplePlace hhonest (asksBriefly_sample _) rfl hread
      not_goesTo_samplePlace (holdsAscii_of_token_eq_none rfl) rfl (by decide) hown
  refine ⟨hhonest, .call rfl ⟨_, rfl⟩ not_goesTo_samplePlace hown .nil, ?_⟩
  rw [calls, hhandle, retry_of_authorize_eq_error _ _ _ _ hbody hsecond]
  rfl

/-- Where no request for a token can be made, the call fails. -/
theorem failsAt_of_tokenRequest_eq_error {t : AuthTransport} {realm : String} {place : Url}
    {e : RequestError} (hquote : '"' ∉ realm.toList) (hslash : '\\' ∉ realm.toList)
    (happlies : t.appliesTo Request.sample.url = .ok true) (htoken : t.token = none)
    (hplace : ¬ Request.sample.GoesTo place)
    (hexchange : t.tokenRequest realm (Challenge.parse ("Bearer realm=\"" ++ realm ++ "\"")) =
      .error e) :
    t.FailsAt realm place "t1" (.request e) := by
  have hown : ¬ Request.sample.Presents "t1" := by decide +kernel
  have hequip : t.equip Request.sample = .ok Request.sample := by rw [equip, htoken]
  obtain ⟨hscheme, hrealm⟩ := (Challenge.isBearerFor_realm hquote hslash).parse_eq
  let peer := Peer.honest realm place fun _ : Unit => "t1"
  let refusal : Response :=
    ⟨401, [("WWW-Authenticate", "Bearer realm=\"" ++ realm ++ "\"")], .ok []⟩
  have hreply : (peer.send Request.sample ()).1 = .ok refusal := by
    simp only [peer, Peer.honest, if_neg hplace, if_neg hown, refusal]
  have hasks : refusal.AsksToken realm (Challenge.parse ("Bearer realm=\"" ++ realm ++ "\"")) :=
    ⟨⟨rfl, _, by cbv, rfl⟩, hscheme, hrealm⟩
  have hresult : (t.handle peer Request.sample ()).result = .error (.request e) := by
    rw [handle_of_equip_eq_ok happlies rfl hequip]
    simp only [converse, hreply, reaction_eq_exchange_iff.mpr hasks,
      exchange_of_tokenRequest_eq_error hexchange]
    rfl
  refine ⟨Peer.isHonest_honest place hquote hslash fun _ => Json.eq_some_str (by decide +kernel),
    .call happlies ⟨_, rfl⟩ hplace hown .nil, ?_⟩
  rw [calls, hresult]
  rfl

/-- The name of a repository may be too long for the query in which a token is asked for. -/
theorem tokenRequest_eq_error {t : AuthTransport} {username password address realm : String}
    {challenge : Challenge} (hidentity : t.identity = .password username password address)
    (hscope : challenge.param? "scope" = none) (hservice : challenge.param? "service" = none)
    (htext : Url.checkText realm.toList = .ok ()) (hrepo : Url.maxLength ≤ t.repo.toList.length) :
    t.tokenRequest realm challenge = .error (.url (.partTooLong .query)) := by
  have hlong :
      Url.maxLength < (Form.encodeStrings (Token.queryFields "" t.scope)).toList.length := by
    have hpart := Form.length_le_encodePart t.scope.toList
    have hlength : t.repo.toList.length < t.scope.toList.length := by
      have hword : 0 < "repository:".toList.length := by decide
      rw [scope, String.toList_append, String.toList_append, List.length_append, List.length_append]
      omega
    have hfields : Token.queryFields "" t.scope = [("scope", t.scope)] := rfl
    rw [hfields, Form.encodeStrings, String.toList_ofList, Form.encode]
    simp only [Form.encodeField, List.map_cons, List.map_nil, List.intercalate_singleton,
      List.length_append, List.length_cons]
    omega
  have hask : Token.scopeOf challenge t.scope = t.scope := by rw [Token.scopeOf, hscope]
  have hname : Token.serviceOf challenge = "" := by rw [Token.serviceOf, hservice]; rfl
  rw [tokenRequest, hidentity, hask, hname]
  simp only [Token.request, Request.query_eq_error htext hlong]

/-- **Honesty alone is not enough.**  There are honest registries with which a call fails:

* one whose token is in another script, so that it cannot be put on a request that was sent
  before;
* one whose realm is a URL with a host that cannot be read, so that nothing can be sent there;
* any, if the name of the repository is too long for the query in which a token is asked for. -/
theorem failsAt_of_honest :
    (make "registry.example.com" "lib/app" (.password "u" "p" "") =
        .ok (sample (.password "u" "p" "")) ∧
      (sample (.password "u" "p" "")).FailsAt "https://auth.example.com/token" samplePlace "é"
        (.header ⟨.ascii, 7, [.char 'é']⟩)) ∧
    (∃ place, Url.parse "https://xn--/token".toList = .ok place ∧
      (sample (.password "u" "p" "")).FailsAt "https://xn--/token" place "t1"
        (.request (.hostname .emptyForm))) ∧
    ∃ repo t, make "registry.example.com" repo (.password "u" "p" "") = .ok t ∧
      t.FailsAt "https://auth.example.com/token" samplePlace "t1"
        (.request (.url (.partTooLong .query))) := by
  refine ⟨⟨make_sample _, failsAt_of_foreign_token⟩, ?_, ?_⟩
  · refine ⟨⟨"https".toList, [], "xn--".toList, none, "/token".toList, none, none⟩, rfl, ?_⟩
    exact failsAt_of_tokenRequest_eq_error (by decide) (by decide) rfl rfl (by decide) (by cbv)
  · let repo := String.ofList (List.replicate Url.maxLength 'a')
    have hrepo : Url.maxLength ≤ repo.toList.length := by simp [repo]
    have haddress : Address.parse "registry.example.com" = .ok ⟨"registry.example.com", none⟩ := by
      cbv
    refine ⟨repo, _, make_of_parse haddress repo _, ?_⟩
    refine failsAt_of_tokenRequest_eq_error (by decide) (by decide) rfl rfl
      not_goesTo_samplePlace ?_
    exact tokenRequest_eq_error rfl (by cbv) (by cbv) rfl hrepo

end AuthTransport
end RegistryAuth
