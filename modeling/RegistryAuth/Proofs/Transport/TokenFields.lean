import RegistryAuth.Proofs.Transport.Run
import RegistryAuth.Proofs.Transport.TokenRequest
import RegistryAuth.Proofs.Url.Authority
import RegistryAuth.Proofs.Url.Form

/-!
# What a request for a token says

A request for a token says what it was meant to say and nothing more: whatever the scope, the
service, the repository and the credentials hold, the endpoint of the realm reads from it just
the fields that were put in (`AuthTransport.says_of_tokenRequest`).

The fields travel by two ways.  A form that is posted is the body, as it was written; one that is
asked for is the query of the URL, and a query is escaped once more.  A form holds nothing that a
query does not admit, so that nothing is escaped twice (`Url.escapeRest_encodeStrings`).
-/

namespace RegistryAuth

/-! ## A form as a query -/

namespace Url

/-- None of the signs of a form needs an escape in a query. -/
theorem queryAdmits_of_isPlain {c : Char} (hc : Form.isPlain c = true) : queryAdmits c = true :=
  Char.forall_ascii (P := fun c => Form.isPlain c = true → queryAdmits c = true)
    (by decide +kernel) (Form.toNat_lt_of_isPlain hc) hc

/-- A form is a query as it stands. -/
theorem escapeRest_encodeStrings (fields : List (String × String)) :
    Percent.escapeRest queryAdmits (Form.encodeStrings fields).toList =
      (Form.encodeStrings fields).toList := by
  rw [Form.encodeStrings, String.toList_ofList]
  exact Percent.escapeRest_eq_self fun _ hc =>
    queryAdmits_of_isPlain (Form.isPlain_of_mem_encode hc)

end Url

/-! ## The two kinds of requests -/

namespace Request

/-- A form is posted to a URL, and no credentials with it; `fields` are what its reader finds. -/
structure Posts (r : Request) (url : String) (fields : List (String × String)) : Prop where
  method_eq : r.method = "POST"
  url_eq : Url.parse url.toList = .ok r.url
  body_eq : ∃ bytes text, r.body = .held bytes ∧ Text.Utf8.decode bytes = .ok text ∧
    Form.fields text = fields
  credentials_eq : r.headers.values Headers.authorization = []

/-- Fields are asked for at a URL, with credentials; `fields` are all that the query says. -/
structure Asks (r : Request) (url : String) (fields : List (String × String))
    (credentials : List String) : Prop where
  method_eq : r.method = "GET"
  url_eq : ∃ u, Url.parse url.toList = .ok u ∧ r.GoesTo u
  query_eq : ∃ text, r.url.query = some text ∧ Form.fields text = fields
  body_eq : r.body = .held []
  credentials_eq : r.headers.values Headers.authorization =
    credentials.map Text.Utf8.encodeString

/-- A form that can be posted is read by who it is posted to. -/
theorem posts_of_form {url : String} {fields : List (String × String)} {r : Request}
    (h : form url fields = .ok r) : r.Posts url fields := by
  obtain ⟨u, -, hparse, -, rfl⟩ := form_eq_ok h
  exact {
    method_eq := (by decide +kernel : Unicode.upperString "POST" = "POST")
    url_eq := hparse
    body_eq := ⟨_, _, rfl, Text.Utf8.decode_encode _, Form.fields_encodeStrings fields⟩
    credentials_eq := (by decide +kernel : formHeaders.values Headers.authorization = []) }

/-- Fields that can be asked for are read by who is asked. -/
theorem asks_of_query {url : String} {fields : List (String × String)} {r : Request}
    (h : query url fields = .ok r) : r.Asks url fields [] := by
  obtain ⟨-, u, -, hparse, -, rfl⟩ := query_eq_ok h
  exact {
    method_eq := (by decide +kernel : Unicode.upperString "GET" = "GET")
    url_eq := ⟨u, hparse, rfl⟩
    query_eq := by
      refine ⟨_, rfl, ?_⟩
      rw [Url.escapeRest_encodeStrings, Form.fields_encodeStrings]
    body_eq := rfl
    credentials_eq := rfl }

/-- Setting credentials in ASCII changes nothing else. -/
theorem Asks.authorize {r r' : Request} {url : String} {fields : List (String × String)}
    {credentials : List String} (h : r.Asks url fields credentials) {value : String}
    (hv : ∀ c ∈ value.toList, Headers.isAscii c = true) (hr : r.authorize value = .ok r') :
    r'.Asks url fields [value] := by
  rw [authorize_of_isAscii hv] at hr
  obtain rfl := Except.ok.inj hr
  exact ⟨h.method_eq, h.url_eq, h.query_eq, h.body_eq, Headers.values_put_self _ _ _⟩

end Request

/-! ## Requests for a token -/

namespace Token

/-- The scope of a challenge counts unless it is empty. -/
theorem scopeOf_eq (challenge : Challenge) (ownScope : String) :
    scopeOf challenge ownScope =
      ((challenge.param? "scope").filter (· ≠ "")).getD ownScope := by
  unfold scopeOf
  cases challenge.param? "scope" with
  | none => rfl
  | some scope =>
    by_cases hscope : scope = ""
    · subst hscope
      rfl
    · have hempty : scope.isEmpty = false := by simpa [String.isEmpty_iff] using hscope
      simp [Option.filter, hscope, hempty]

theorem queryFields_eq (service scope : String) :
    queryFields service scope =
      ("scope", scope) :: if service = "" then [] else [("service", service)] := by
  simp only [queryFields, String.isEmpty_iff]

end Token

namespace AuthTransport

/-- **A request for a token says what it was meant to say and nothing more**, whatever signs
stand in the scope, the service, the repository and the credentials. -/
theorem says_of_tokenRequest {t : AuthTransport} {realm : String} {challenge : Challenge}
    {r : Request} (h : t.tokenRequest realm challenge = .ok r) :
    let scope := ((challenge.param? "scope").filter (· ≠ "")).getD
      ("repository:" ++ t.repo ++ ":pull,push")
    let service := (challenge.param? "service").getD ""
    match t.identity with
    | .token token _ => r.Posts realm
        [("grant_type", "refresh_token"), ("refresh_token", token), ("service", service),
          ("scope", scope), ("client_id", "regsec")]
    | .password username password _ => r.Asks realm
        (("scope", scope) :: if service = "" then [] else [("service", service)])
        (if username = "" ∧ password = "" then []
          else [Authorization.basic username password]) := by
  intro scope service
  have hscope : Token.scopeOf challenge t.scope = scope := Token.scopeOf_eq _ _
  have hservice : Token.serviceOf challenge = service := rfl
  rw [tokenRequest, hscope, hservice] at h
  cases hidentity : t.identity with
  | token token address =>
    rw [hidentity] at h
    exact Request.posts_of_form h
  | password username password address =>
    rw [hidentity, Token.request, Token.queryFields_eq] at h
    cases hquery : Request.query realm
        (("scope", scope) :: if service = "" then [] else [("service", service)]) with
    | error e => rw [hquery] at h; cases h
    | ok plain =>
      rw [hquery] at h
      have hplain := Request.asks_of_query hquery
      dsimp only at h ⊢
      split at h
      · next hempty =>
        have hnone : username = "" ∧ password = "" := by
          simpa [Identity.isEmpty, String.isEmpty_iff] using hempty
        rw [if_pos hnone, ← Except.ok.inj h]
        exact hplain
      · next hfilled =>
        have hsome : ¬ (username = "" ∧ password = "") := by
          simpa [Identity.isEmpty, String.isEmpty_iff] using hfilled
        rw [if_neg hsome]
        exact hplain.authorize (fun c hc => Authorization.isAscii_of_mem_basic hc)
          (Except.mapError_eq_ok h)

/-- The scope would pass for further fields if it could, and the realm has a query already. -/
theorem says_of_tokenRequest_crafted_scope :
    let realm := "https://auth.example.com/token?scope=all"
    let scope := "pull&scope=push&service=%26+#é"
    let challenge : Challenge := ⟨"bearer", [("realm", realm), ("scope", scope), ("service", "")]⟩
    ∃ r, (sample (.password "u" "p" "")).tokenRequest realm challenge = .ok r ∧
      r.Asks realm [("scope", scope)] [Authorization.basic "u" "p"] := by
  intro realm scope challenge
  have hok : ((sample (.password "u" "p" "")).tokenRequest realm challenge).isOk = true := by
    decide +kernel
  cases hr : (sample (.password "u" "p" "")).tokenRequest realm challenge with
  | error e => rw [hr] at hok; cases hok
  | ok r => exact ⟨r, rfl, says_of_tokenRequest hr⟩

end AuthTransport
end RegistryAuth
