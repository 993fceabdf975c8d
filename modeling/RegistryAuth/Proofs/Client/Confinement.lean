import RegistryAuth.Proofs.Transport.Trace
import RegistryAuth.SendOption

/-!
# Credentials stay with their registry

A client follows redirects, and each request is made from the one before, with the
credentials that the transport has written into it.  So there are two loops inside one
another: the transport answers challenges by adding credentials, and the client moves on to
places that a server has chosen.  `credentials_confined` says that they do not get out: but
for the exchange, what is sent to a host other than that of the registry carries no
credentials, whatever URLs are asked for and whatever the servers answer.

## The invariant

`Request.Confined` is what holds at each point of both loops: the request carries no
credentials, or its host is that of the registry.

* The transport adds credentials only to a request to the registry, and it changes neither
  the host of a request nor, elsewhere, its headers (`Handling.confined`).
* A redirect that keeps the credentials keeps the host, for it stays in its origin or
  reaches the same host in the secure way (`Redirect.confined_of_next`).
* The first request for a URL has no credentials, since neither the settings nor the URL
  give any (`Client.values_of_request`).

The host alone counts here and the port does not, since a redirect from the plain to the
secure port takes the credentials along.
-/

namespace RegistryAuth

/-- The host of the URL is that of the registry. -/
def Url.IsAt (endpoint : Address) (u : Url) : Prop :=
  ∃ host, u.shownHost = .ok host ∧ String.ofList (Unicode.lower host) = endpoint.host

/-- The request carries no credentials unless it goes to the host of the registry. -/
def Request.Confined (endpoint : Address) (r : Request) : Prop :=
  r.headers.values Headers.authorization = [] ∨ r.url.IsAt endpoint

/-- Sending a request changes neither its credentials nor its URL. -/
theorem Request.Confined.sent {endpoint : Address} {r : Request} (h : r.Confined endpoint) :
    r.sent.Confined endpoint := by
  unfold Request.Confined Request.sent
  rw [Headers.values_settle]
  exact h

/-! ## The transport -/

namespace AuthTransport

variable {σ : Type}

/-- A request that gets credentials goes to the host of the registry. -/
theorem isAt_of_appliesTo {t : AuthTransport} {url : Url} (h : t.appliesTo url = .ok true) :
    url.IsAt t.endpoint := by
  obtain ⟨host, hhost, hmatches⟩ := Except.map_eq_ok h
  rw [Bool.and_eq_true, decide_eq_true_iff] at hmatches
  exact ⟨host, hhost, hmatches.1⟩

/-- What is sent for a confined request is confined, and so is the request that is left. -/
theorem Handling.confined {t t' : AuthTransport} {request left : Request}
    {sendings : List Sending} {result : Except TransportError Response}
    (h : t.Handling request sendings result t' left) (hrequest : request.Confined t.endpoint) :
    (∀ m ∈ sendings, m.purpose ≠ .exchange → m.request.Confined t.endpoint) ∧
      left.Confined t.endpoint := by
  have hmessages := h.restates
  -- whatever its credentials, a request that applies goes to the registry
  have hat (applies : t.appliesTo request.url = .ok true) {r : Request}
      (hr : r.url = request.url) : r.Confined t.endpoint := by
    unfold Request.Confined
    rw [hr]
    exact Or.inr (isAt_of_appliesTo applies)
  have hleft := h.url_left
  cases h with
  | unreadable _ => exact ⟨List.forall_mem_nil _, hrequest⟩
  | passed _ => exact ⟨List.forall_mem_singleton.mpr fun _ => hrequest, hrequest.sent⟩
  | unread _ _ => exact ⟨List.forall_mem_nil _, hrequest⟩
  | unequipped applies _ _ _ => exact ⟨List.forall_mem_nil _, hat applies hleft⟩
  | conversed applies _ _ _ =>
    exact ⟨fun m hm hpurpose => hat applies (hmessages m hm hpurpose).url_eq, hat applies hleft⟩

end AuthTransport

/-! ## Redirects -/

namespace Redirect

/-- What the request for a redirect is made of. -/
theorem next_eq_ok {request next' : Request} {location : String}
    (h : next request location = .ok next') :
    ∃ url here there, request.url.origin = .ok here ∧ url.origin = .ok there ∧
      next' = { request with url := url, headers := headers request url here there } := by
  obtain ⟨url, -, h⟩ := Except.bind_eq_ok h
  obtain ⟨here, hhere, h⟩ := Except.bind_eq_ok h
  obtain ⟨there, hthere, h⟩ := Except.bind_eq_ok h
  exact ⟨url, here, there, Except.mapError_eq_ok hhere, Except.mapError_eq_ok hthere,
    (Except.ok.inj h).symm⟩

/-- Credentials are taken along or left behind, and none are added. -/
theorem values_headers (request : Request) (url : Url) (here there : Origin) :
    (headers request url here there).values Headers.authorization =
      if keepsCredentials here there then request.headers.values Headers.authorization else [] := by
  have hhost : Headers.sameName hostHeader Headers.authorization = false := by decide
  have hcookie : Headers.sameName cookieHeader Headers.authorization = false := by decide
  unfold headers
  rw [Headers.values_erase_of_ne hcookie]
  have hput : ∀ kept : Headers,
      (if here = there then kept
        else kept.put hostHeader (Text.Utf8.encode url.hostAndPort)).values Headers.authorization =
        kept.values Headers.authorization := by
    intro kept
    split
    · rfl
    · exact Headers.values_put_of_ne hhost kept _
  rw [hput]
  split
  · rfl
  · exact Headers.values_erase_self _ _

/-- Credentials are taken along to the same host alone. -/
theorem host_eq_of_keepsCredentials {here there : Origin} (h : keepsCredentials here there = true) :
    here.host = there.host := by
  rw [keepsCredentials, Bool.or_eq_true, decide_eq_true_iff] at h
  rcases h with rfl | h
  · rfl
  · simp only [isUpgrade, Bool.and_eq_true, decide_eq_true_iff] at h
    exact h.1.1.1.1

/-- A redirect from a confined request leads to a confined one. -/
theorem confined_of_next {endpoint : Address} {request next' : Request} {location : String}
    (hrequest : request.Confined endpoint) (h : next request location = .ok next') :
    next'.Confined endpoint := by
  obtain ⟨url, here, there, hhere, hthere, rfl⟩ := next_eq_ok h
  unfold Request.Confined
  rw [values_headers]
  split
  · next hkeeps =>
    obtain ⟨host, hhost, rfl⟩ := Except.map_eq_ok hhere
    obtain ⟨host', hhost', rfl⟩ := Except.map_eq_ok hthere
    have heq : host = host' := host_eq_of_keepsCredentials hkeeps
    refine hrequest.imp_right ?_
    rintro ⟨shown, hshown, hat⟩
    rw [hhost] at hshown
    cases hshown
    exact ⟨host', hhost', heq ▸ hat⟩
  · exact Or.inl rfl

end Redirect

/-! ## The first request -/

namespace Url

theorem userinfo_of_assemble {p : UrlParts} {userinfo host port : List Char} {u : Url}
    (h : assemble p userinfo host port = .ok u) :
    u.userinfo = Percent.escapeRest userinfoAdmits userinfo := by
  obtain ⟨host, -, h⟩ := Except.bind_eq_ok h
  obtain ⟨port, -, h⟩ := Except.bind_eq_ok h
  obtain ⟨-, -, h⟩ := Except.bind_eq_ok h
  rw [← Except.ok.inj h]

/-- What is asked for has no name and no password if the URL has none. -/
theorem userinfo_of_rooted {u v : Url} (hu : u.userinfo = []) (h : u.rooted = .ok v) :
    v.userinfo = [] := by
  unfold rooted at h
  split at h
  · rw [← Except.ok.inj h]
    exact hu
  · obtain ⟨-, -, h⟩ := Except.bind_eq_ok h
    rw [userinfo_of_assemble h]
    simp [Percent.escapeRest]

end Url

theorem Request.ofUrl_eq_ok {method : String} {url : Url} {headers : Headers} {body : List UInt8}
    {r : Request} (h : Request.ofUrl method url headers body = .ok r) :
    r = ⟨Unicode.upperString method, url, headers.copy, .held body⟩ := by
  unfold Request.ofUrl at h
  split at h
  · exact (Except.ok.inj h).symm
  · split at h
    · cases h
    · exact (Except.ok.inj h).symm

namespace Client

variable {σ : Type}

theorem userHeader?_eq_none {u : Url} (hu : u.userinfo = []) : userHeader? u = none := by
  simp [userHeader?, Url.username, Url.password, hu, Percent.unescape]

/-- The first request for a URL without a name and a password carries no credentials, if
the client has none for all its requests. -/
theorem values_of_request {c : Client} {url : String} {r : Request}
    (hheaders : c.headers.values Headers.authorization = [])
    (hurl : ∀ u, Url.parse url.toList = .ok u → u.userinfo = []) (h : c.request url = .ok r) :
    r.headers.values Headers.authorization = [] := by
  obtain ⟨u, hu, h⟩ := Except.bind_eq_ok h
  obtain ⟨v, hv, h⟩ := Except.bind_eq_ok h
  obtain ⟨request, hrequest, h⟩ := Except.bind_eq_ok h
  have huserinfo := Url.userinfo_of_rooted (hurl u (Except.mapError_eq_ok hu))
    (Except.mapError_eq_ok hv)
  rw [userHeader?_eq_none huserinfo] at h
  rw [← Except.ok.inj h, Request.ofUrl_eq_ok hrequest, Headers.values_copy]
  exact hheaders

end Client

/-! ## Both loops -/

/-- What became of a request of a client keeps the credentials with the registry: the
network has seen just the messages that it says were sent, all of them but exchanges are
confined, and the client goes on through a transport for the same registry. -/
structure Fetched.Confined {σ : Type} (peer : Peer σ) (endpoint : Address) (s : σ)
    (f : Fetched σ) : Prop where
  logs : peer.Logs s f.sendings f.peer
  messages : ∀ m ∈ f.sendings, m.purpose ≠ .exchange → m.request.Confined endpoint
  route : ∃ t, f.route = .through t ∧ t.endpoint = endpoint

namespace Client

variable {σ : Type}

/-- The next request is that of a redirect. -/
theorem next_of_step_eq_follow {c : Client} {request next : Request} {response : Response}
    (h : c.step request response = .follow next) :
    ∃ location, Redirect.next request location = .ok next := by
  unfold step at h
  split at h
  · cases h
  · split at h
    · cases h
    · next location hlocation =>
      split at h
      · cases h
      · next r hnext =>
        split at h
        · cases h
        · split at h
          · cases h
          · cases h
            exact ⟨location, hnext⟩

/-- The invariant of both loops: from a confined request on, whatever is answered, all is
confined. -/
theorem run_confined (c : Client) (peer : Peer σ) (left : Nat) :
    ∀ {t : AuthTransport} {request : Request} (s : σ), request.Confined t.endpoint →
      (c.run peer left (.through t) request s).Confined peer t.endpoint s := by
  induction left with
  | zero =>
    intro t request s h
    exact ⟨.nil s, List.forall_mem_nil _, t, rfl, rfl⟩
  | succ left ih =>
    intro t request s h
    obtain ⟨hlogs, hhandling⟩ := AuthTransport.handle_handling t peer request s
    obtain ⟨hmessages, hleft⟩ := hhandling.confined h
    have hendpoint := hhandling.endpoint_eq
    simp only [run, Route.handle]
    generalize t.handle peer request s = handled at *
    cases handled.result with
    | error e => exact ⟨hlogs, hmessages, _, rfl, hendpoint⟩
    | ok response =>
      cases hstep : c.step handled.request response with
      | done result => simp only [hstep]; exact ⟨hlogs, hmessages, _, rfl, hendpoint⟩
      | follow next =>
        -- the redirect starts from the request as it was left, with the credentials in it
        obtain ⟨location, hnext⟩ := next_of_step_eq_follow hstep
        have hconfined := Redirect.confined_of_next hleft hnext
        rw [← hendpoint] at hconfined
        have hrest := ih handled.peer hconfined
        rw [hendpoint] at hrest
        simp only [hstep]
        exact ⟨hlogs.append hrest.logs, List.forall_mem_append.mpr ⟨hmessages, hrest.messages⟩,
          hrest.route⟩

theorem get_confined {c : Client} {t : AuthTransport} (hroute : c.route = .through t)
    (hheaders : c.headers.values Headers.authorization = []) {url : String}
    (hurl : ∀ u, Url.parse url.toList = .ok u → u.userinfo = []) (peer : Peer σ) (s : σ) :
    (c.get peer url s).Confined peer t.endpoint s := by
  unfold get
  rw [hroute]
  cases hrequest : c.request url with
  | error e => exact ⟨.nil s, List.forall_mem_nil _, t, rfl, rfl⟩
  | ok request =>
    exact c.run_confined peer _ s (Or.inl (values_of_request hheaders hurl hrequest))

/-- The messages that are sent when a client asks for some URLs in order, and the network
afterwards.  The token that is at hand after one is at hand for the next. -/
def visit (c : Client) (peer : Peer σ) : List String → σ → List Sending × σ
  | [], s => ([], s)
  | url :: urls, s =>
    let f := c.get peer url s
    let (sendings, s) := visit { c with route := f.route } peer urls f.peer
    (f.sendings ++ sendings, s)

theorem visit_confined {urls : List String}
    (hurls : ∀ url ∈ urls, ∀ u, Url.parse url.toList = .ok u → u.userinfo = []) (peer : Peer σ) :
    ∀ {c : Client} {t : AuthTransport} (s : σ), c.route = .through t →
      c.headers.values Headers.authorization = [] →
      peer.Logs s (c.visit peer urls s).1 (c.visit peer urls s).2 ∧
        ∀ m ∈ (c.visit peer urls s).1, m.purpose ≠ .exchange → m.request.Confined t.endpoint := by
  induction urls with
  | nil =>
    intro c t s _ _
    exact ⟨.nil s, List.forall_mem_nil _⟩
  | cons url urls ih =>
    intro c t s hroute hheaders
    have hfirst := get_confined hroute hheaders (hurls url List.mem_cons_self) peer s
    obtain ⟨t', hroute', hendpoint⟩ := hfirst.route
    obtain ⟨hlogs, hmessages⟩ := ih (fun u hu => hurls u (List.mem_cons_of_mem _ hu))
      (c.get peer url s).peer (c := { c with route := (c.get peer url s).route }) hroute' hheaders
    rw [hendpoint] at hmessages
    exact ⟨hfirst.logs.append hlogs, List.forall_mem_append.mpr ⟨hfirst.messages, hmessages⟩⟩

/-- **Credentials stay with their registry.**  A client sends through a transport for a
registry; its settings give no credentials of their own, and it is asked for any URLs in
order, none of which holds a name or a password.  Whatever the servers answer and wherever
they send the client on to, the messages are those that the network sees, and but for the
exchanges those that go to a host other than that of the registry carry no credentials. -/
theorem credentials_confined {address repo : String} {identity : Identity} {t : AuthTransport}
    {endpoint : Address} {settings : Settings} {verification : Verification} {c : Client}
    (hendpoint : Address.parse address = .ok endpoint)
    (ht : AuthTransport.make address repo identity = .ok t)
    (hc : make settings (SendOption.authenticated verification t).route = .ok c)
    (hextra : ∀ item ∈ settings.extraHeaders,
      Headers.sameName item.1 Headers.authorization = false)
    {urls : List String}
    (hurls : ∀ url ∈ urls, ∀ u, Url.parse url.toList = .ok u → u.userinfo = [])
    (peer : Peer σ) (s : σ) :
    peer.Logs s (c.visit peer urls s).1 (c.visit peer urls s).2 ∧
      ∀ m ∈ (c.visit peer urls s).1, m.purpose ≠ .exchange →
        (∀ host, m.request.url.shownHost = .ok host →
          String.ofList (Unicode.lower host) ≠ endpoint.host) →
        m.request.headers.values Headers.authorization = [] := by
  obtain ⟨endpoint', hendpoint', rfl⟩ := AuthTransport.make_eq_ok ht
  rw [hendpoint] at hendpoint'
  cases hendpoint'
  obtain ⟨headers, hheaders, rfl⟩ := Except.map_eq_ok hc
  have hnone : headers.values Headers.authorization = [] := by
    rw [Headers.values_of_ofList hheaders, Headers.under,
      List.filter_eq_nil_iff.mpr fun item hitem => by simp [hextra item hitem]]
    rfl
  obtain ⟨hlogs, hmessages⟩ := visit_confined hurls peer s rfl (c := ⟨_, _, _⟩) hnone
  refine ⟨hlogs, fun m hm hpurpose helsewhere => ?_⟩
  rcases hmessages m hm hpurpose with h | ⟨host, hhost, hat⟩
  · exact h
  · exact absurd hat (helsewhere host hhost)

/-- The registry asks for a name and a password, gets them with the request once more, and
then sends the client to another host; there they are not presented. -/
theorem credentials_confined_of_redirect :
    let url := "https://registry.example.com/v2/"
    let script : List (Except SendFailure Response) :=
      [.ok ⟨401, [("WWW-Authenticate", "Basic")], .ok []⟩,
        .ok ⟨307, [("Location", "https://mirror.example.org/v2/")], .ok []⟩, .ok ⟨200, [], .ok []⟩]
    ∃ t endpoint c, Address.parse "registry.example.com" = .ok endpoint ∧
      AuthTransport.make "registry.example.com" "lib/app" (.password "u" "p" "") = .ok t ∧
      make Settings.standard (SendOption.authenticated (.flag true) t).route = .ok c ∧
      (∀ u, Url.parse url.toList = .ok u → u.userinfo = []) ∧
      ((c.visit Peer.scripted [url] script).1.map fun m =>
        (String.ofList m.request.url.host, m.request.headers.texts Headers.authorization)) =
          [("registry.example.com", []), ("registry.example.com", ["Basic dTpw"]),
            ("mirror.example.org", [])] ∧
      ∀ m ∈ (c.visit Peer.scripted [url] script).1, m.purpose ≠ .exchange →
        (∀ host, m.request.url.shownHost = .ok host →
          String.ofList (Unicode.lower host) ≠ endpoint.host) →
        m.request.headers.values Headers.authorization = [] := by
  intro url script
  have hparse : Url.parse "https://registry.example.com/v2/".toList =
    .ok ⟨"https".toList, [], "registry.example.com".toList, none, "/v2/".toList, none, none⟩ := rfl
  have hmake := AuthTransport.make_sample (.password "u" "p" "")
  obtain ⟨endpoint, hendpoint, heq⟩ := AuthTransport.make_eq_ok hmake
  have hurl : ∀ u, Url.parse url.toList = .ok u → u.userinfo = [] := by
    intro u hu
    rw [hparse] at hu
    cases hu
    rfl
  have hurls : ∀ text ∈ [url], ∀ u, Url.parse text.toList = .ok u → u.userinfo = [] := by
    intro text htext
    rw [List.mem_singleton.mp htext]
    exact hurl
  have hextra : ∀ item ∈ Settings.standard.extraHeaders,
      Headers.sameName item.1 Headers.authorization = false :=
    fun item hitem => absurd hitem List.not_mem_nil
  refine ⟨_, endpoint, _, hendpoint, hmake, rfl, hurl, by decide +kernel, ?_⟩
  exact (credentials_confined hendpoint hmake rfl hextra hurls Peer.scripted script).2

end Client
end RegistryAuth
