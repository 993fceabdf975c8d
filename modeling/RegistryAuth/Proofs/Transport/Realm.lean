import RegistryAuth.Proofs.Transport.TokenFields

/-!
# Which endpoint a request for a token reaches

Whether a token is posted or a name and a password are presented, the request goes to the realm:
to its scheme, host, port and path.  But a realm may have a query of its own, and only one of the
two keeps it (`AuthTransport.keeps_of_tokenRequest`): the form is posted to the realm as it is, and
what is asked takes the place of the query that was there.  So an endpoint that is told apart by its
query is reached by one and not by the other (`AuthTransport.params_of_realm_with_query`).
-/

namespace RegistryAuth

/-- The parameters in the query of a URL. -/
def Url.params (u : Url) : List (String × String) := Form.fields (u.query.getD [])

/-- The request goes to a URL, and says there what the query of the URL says. -/
structure Request.Keeps (r : Request) (u : Url) : Prop where
  goesTo : r.GoesTo u
  params_subset : u.params ⊆ r.url.params

theorem Request.GoesTo.keeps_iff {r : Request} {u : Url} (h : r.GoesTo u) :
    r.Keeps u ↔ u.params ⊆ r.url.params :=
  ⟨fun hkeeps => hkeeps.params_subset, fun hparams => ⟨h, hparams⟩⟩

namespace Token

variable {realm service scope : String} {u : Url} {identity : Identity} {r : Request}

/-- A token is posted to the realm as it is. -/
theorem url_of_posted (hrealm : Url.parse realm.toList = .ok u) {token address : String}
    (h : request (.token token address) realm service scope = .ok r) : r.url = u := by
  obtain ⟨u', -, hparse, -, hurl⟩ := request_eq_ok h
  rw [hrealm] at hparse
  rw [hurl, Except.ok.inj hparse]

/-- What is asked at the realm is all that the query says. -/
theorem url_of_asked (hrealm : Url.parse realm.toList = .ok u)
    {username password address : String}
    (h : request (.password username password address) realm service scope = .ok r) :
    r.GoesTo u ∧ r.url.params = queryFields service scope := by
  obtain ⟨u', -, hparse, -, -, hurl⟩ := request_eq_ok h
  rw [hrealm] at hparse
  obtain rfl := Except.ok.inj hparse
  refine ⟨by rw [Request.GoesTo, hurl], ?_⟩
  rw [Url.params, hurl, Option.getD_some, Url.escapeRest_encodeStrings, Form.fields_encodeStrings]

/-- A request for a token can be made unless the host of the realm cannot be shown, or what is
asked there is too long. -/
theorem exists_request_iff_of_parse (hrealm : Url.parse realm.toList = .ok u) :
    (∃ r, request identity realm service scope = .ok r) ↔
      (∃ host, u.shownHost = .ok host) ∧ ((∃ token address, identity = .token token address) ∨
        (Form.encodeStrings (queryFields service scope)).toList.length ≤ Url.maxLength) := by
  have hplain : (∃ plain, Request.make "GET" realm [] [] = .ok plain) ↔
      ∃ host, u.shownHost = .ok host := by
    constructor
    · rintro ⟨plain, hmake⟩
      obtain ⟨u', host, hparse, hhost, -⟩ := Request.make_eq_ok hmake
      rw [hrealm] at hparse
      exact ⟨host, Except.ok.inj hparse ▸ hhost⟩
    · rintro ⟨host, hhost⟩
      exact ⟨_, Request.make_eq hrealm hhost "GET" []⟩
  rw [exists_request_iff, hplain]

end Token

namespace AuthTransport

/-- **A request for a token goes to the realm, and keeps its query if a token is posted.**  What is
asked takes the place of the query, so that all of it is kept only if it was to be asked anyway. -/
theorem keeps_of_tokenRequest {realm : String} {u : Url} (hrealm : Url.parse realm.toList = .ok u)
    (t : AuthTransport) (challenge : Challenge) :
    let asked := Token.queryFields (Token.serviceOf challenge) (Token.scopeOf challenge t.scope)
    let posts := ∃ token address, t.identity = .token token address
    ((∃ r, t.tokenRequest realm challenge = .ok r) ↔ (∃ host, u.shownHost = .ok host) ∧
        (posts ∨ (Form.encodeStrings asked).toList.length ≤ Url.maxLength)) ∧
      ∀ r, t.tokenRequest realm challenge = .ok r →
        r.GoesTo u ∧ (posts → r.url = u) ∧ (¬posts → r.url.params = asked) ∧
          (r.Keeps u ↔ posts ∨ u.params ⊆ asked) := by
  intro asked posts
  refine ⟨Token.exists_request_iff_of_parse hrealm, fun r hr => ?_⟩
  rw [tokenRequest] at hr
  cases hidentity : t.identity with
  | token token address =>
    rw [hidentity] at hr
    have hposts : posts := ⟨token, address, hidentity⟩
    have hurl := Token.url_of_posted hrealm hr
    have hgoes : r.GoesTo u := by rw [Request.GoesTo, hurl]
    refine ⟨hgoes, fun _ => hurl, fun hnot => absurd hposts hnot, ?_⟩
    rw [hgoes.keeps_iff, hurl]
    exact iff_of_true (List.Subset.refl _) (.inl hposts)
  | password username password address =>
    rw [hidentity] at hr
    have hasks : ¬posts := by
      rintro ⟨token, address', hposts⟩
      rw [hidentity] at hposts
      cases hposts
    obtain ⟨hgoes, hparams⟩ := Token.url_of_asked hrealm hr
    refine ⟨hgoes, fun hposts => absurd hposts hasks, fun _ => hparams, ?_⟩
    rw [hgoes.keeps_iff, hparams, or_iff_right hasks]

/-- The realm has a query of its own. -/
theorem keeps_of_tokenRequest_with_query :
    let realm := "https://auth.example.com/token?account=ci"
    let u : Url := ⟨"https".toList, [], "auth.example.com".toList, none, "/token".toList,
      some "account=ci".toList, none⟩
    let challenge : Challenge := ⟨"bearer", [("realm", realm)]⟩
    Url.parse realm.toList = .ok u ∧
      (∃ r, (sample (.token "t" "")).tokenRequest realm challenge = .ok r ∧ r.Keeps u) ∧
      ∃ r, (sample (.password "u" "p" "")).tokenRequest realm challenge = .ok r ∧ r.GoesTo u ∧
        ¬r.Keeps u := by
  intro realm u challenge
  have hrealm : Url.parse realm.toList = .ok u := by decide +kernel
  have hhost : ∃ host, u.shownHost = .ok host := ⟨u.host, by decide +kernel⟩
  obtain ⟨hposts, hposted⟩ := keeps_of_tokenRequest hrealm (sample (.token "t" "")) challenge
  obtain ⟨hasks, hasked⟩ := keeps_of_tokenRequest hrealm (sample (.password "u" "p" "")) challenge
  obtain ⟨posted, hr⟩ := hposts.mpr ⟨hhost, .inl ⟨"t", "", rfl⟩⟩
  obtain ⟨asked, hr'⟩ := hasks.mpr ⟨hhost, .inr (by decide +kernel)⟩
  refine ⟨hrealm, ⟨posted, hr, ?_⟩, asked, hr', (hasked _ hr').1, ?_⟩
  · exact (hposted _ hr).2.2.2.mpr (.inl ⟨"t", "", rfl⟩)
  · rw [(hasked _ hr').2.2.2]
    rintro (⟨token, address, h⟩ | h)
    · cases h
    · revert h
      decide +kernel

/-- Of the query of a realm a name and a password leave nothing. -/
theorem params_of_realm_with_query :
    let realm := "https://auth.example.com/token?account=ci"
    let challenge : Challenge := ⟨"bearer", [("realm", realm)]⟩
    let params (identity : Identity) :=
      ((sample identity).tokenRequest realm challenge).toOption.map fun r => r.url.params
    (Url.parse realm.toList).toOption.map Url.params = some [("account", "ci")] ∧
      params (.token "t" "") = some [("account", "ci")] ∧
      params (.password "u" "p" "") = some [("scope", "repository:lib/app:pull,push")] := by
  decide +kernel

end AuthTransport
end RegistryAuth
