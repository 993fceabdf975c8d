import RegistryAuth.Proofs.Challenge.Listed
import RegistryAuth.Proofs.Credential.Authorization
import RegistryAuth.Proofs.Transport.TokenCache
import RegistryAuth.Proofs.Transport.TokenRequest

/-!
# Honest registries

A registry is honest (`Peer.IsHonest`) if it admits a request exactly when that presents the
token that is valid, refuses every other with one bearer challenge, and if the realm of its
challenges gives that token out.  What else it does is its own affair: which headers its answers
have, what its challenges say besides, and how its state goes on, as long as the valid token stays
the same while it is asked.

`Peer.honest` is the least that such a registry has to do (`Peer.isHonest_honest`).
-/

namespace RegistryAuth

/-- The request presents the token and nothing else. -/
def Request.Presents (r : Request) (token : String) : Prop :=
  r.headers.get? Headers.authorization = some (Authorization.bearer token)

/-- The header is one bearer challenge by the rules.  A realm is heard in it once, in quotes, and
holds neither a quote nor a backslash. -/
def Challenge.IsBearerFor (header realm : String) : Prop :=
  ∃ (d : Stated) (w : Written), header.toList = d.text ∧ d.IsListed ∧
    d.scheme.map Char.toLower = "bearer".toList ∧
    (d.heard.filter fun w => w.key = "realm") = [w] ∧ w.isQuoted = true ∧
    w.body = realm.toList ∧ '"' ∉ realm.toList ∧ '\\' ∉ realm.toList

/-- A registry and the endpoint of its realm, which stands at `place`.  The endpoint gives out
the valid token; the registry admits the requests that present it and challenges the others.
Being asked does not change which token is valid. -/
structure Peer.IsHonest {σ : Type} (peer : Peer σ) (valid : σ → String) (realm : String)
    (place : Url) : Prop where
  keeps : ∀ r s, valid (peer.send r s).2 = valid s
  issues : ∀ r s, r.GoesTo place → ∃ response, (peer.send r s).1 = .ok response ∧
    response.issued? = some (.str (valid s))
  admits : ∀ r s, ¬ r.GoesTo place → r.Presents (valid s) →
    ∃ response, (peer.send r s).1 = .ok response ∧ response.status = 200
  refuses : ∀ r s, ¬ r.GoesTo place → ¬ r.Presents (valid s) →
    ∃ response header body, (peer.send r s).1 = .ok response ∧ response.status = 401 ∧
      response.header? AuthTransport.challengeHeader = some header ∧
      Challenge.IsBearerFor header realm ∧ response.body = .ok body

/-- Whether a value is the text. -/
def Json.isText (text : String) : Json → Bool
  | .str s => s = text
  | _ => false

theorem Json.eq_some_str {v? : Option Json} {text : String}
    (h : v?.any (Json.isText text) = true) : v? = some (.str text) := by
  cases v? with
  | none => cases h
  | some v =>
    cases v with
    | str s =>
      have hs : s = .whole text := of_decide_eq_true h
      rw [hs]
    | null | bool _ | int _ | float _ | arr _ | obj _ => cases h

/-- The answer of the endpoint of a realm that gives out the token. -/
def Response.issue (token : String) : Response :=
  ⟨200, [], .ok (Text.Utf8.encodeString ("\x7b\"token\": \"" ++ token ++ "\"\x7d"))⟩

instance (r : Request) (token : String) : Decidable (r.Presents token) :=
  inferInstanceAs (Decidable (_ = _))

/-- A registry that keeps to the rules, with the endpoint of its realm. -/
def Peer.honest {σ : Type} (realm : String) (place : Url) (valid : σ → String) : Peer σ where
  send r s :=
    (.ok (if r.GoesTo place then .issue (valid s)
      else if r.Presents (valid s) then ⟨200, [], .ok []⟩
      else ⟨401, [("WWW-Authenticate", "Bearer realm=\"" ++ realm ++ "\"")], .ok []⟩), s)
  close s := s

/-! ## Challenges and credentials -/

/-- A bearer challenge is read as one, with the realm that it names. -/
theorem Challenge.IsBearerFor.parse_eq {header realm : String} (h : IsBearerFor header realm) :
    (Challenge.parse header).scheme = "bearer" ∧
      (Challenge.parse header).param? "realm" = some realm := by
  obtain ⟨d, w, htext, hlisted, hscheme, hrealm, -, hbody, -, hslash⟩ := h
  have hlower : Unicode.lower d.scheme = d.scheme.map Char.toLower :=
    Unicode.lower_eq_map_toLower fun c hc => (of_isToken (hlisted.scheme_token c hc)).1
  have hparse : Challenge.parse header = ⟨"bearer",
      d.heard.foldl (fun params w => setParam w.key w.value params) []⟩ := by
    have hnone : ∀ e ∈ ([] : List Stated), e.IsListed := List.forall_mem_nil _
    have hchars := Stated.parseChars_text_append hlisted hnone
    rw [Stated.textBehind, List.flatMap_nil, List.append_nil, hlower, hscheme,
      List.flatMap_singleton] at hchars
    rw [Challenge.parse, htext, hchars]
    rfl
  refine ⟨by rw [hparse], ?_⟩
  rw [hparse, param?, lookup_foldl_setParam, hrealm]
  simp [Written.value, hbody, unescape_eq_self hslash]

/-- A challenge that names nothing but a realm. -/
theorem Challenge.isBearerFor_realm {realm : String} (hquote : '"' ∉ realm.toList)
    (hslash : '\\' ∉ realm.toList) :
    IsBearerFor ("Bearer realm=\"" ++ realm ++ "\"") realm := by
  have hlisted : (Stated.single "Bearer" "realm" realm).IsListed :=
    Stated.isListed_single (by decide) (by decide) (by decide) (by decide) hquote hslash
  refine ⟨_, _, ?_, hlisted, rfl, rfl, rfl, rfl, hquote, hslash⟩
  simp [Stated.text, Stated.paramsText, Stated.single, renderParams, Written.render]

/-- A registry that keeps to the rules is honest, if its tokens and its realm can stand between
quotes. -/
theorem Peer.isHonest_honest {σ : Type} {realm : String} (place : Url) {valid : σ → String}
    (hquote : '"' ∉ realm.toList) (hslash : '\\' ∉ realm.toList)
    (hissue : ∀ s, (Response.issue (valid s)).issued? = some (.str (valid s))) :
    (Peer.honest realm place valid).IsHonest valid realm place where
  keeps _ _ := rfl
  issues r s hr := ⟨.issue (valid s), by simp only [honest, if_pos hr], hissue s⟩
  admits r s hr hp := ⟨⟨200, [], .ok []⟩, by simp only [honest, if_neg hr, if_pos hp], rfl⟩
  refuses r s hr hp :=
    ⟨⟨401, [("WWW-Authenticate", "Bearer realm=\"" ++ realm ++ "\"")], .ok []⟩, _, [],
      by simp only [honest, if_neg hr, if_neg hp], rfl, by cbv,
      Challenge.isBearerFor_realm hquote hslash, rfl⟩

/-- The only challenge of a registry that keeps to the rules. -/
theorem Peer.eq_of_header?_honest {σ : Type} {realm : String} {place : Url} {valid : σ → String}
    {r : Request} {s : σ} {response : Response} {header : String}
    (hreply : ((honest realm place valid).send r s).1 = .ok response)
    (hheader : response.header? AuthTransport.challengeHeader = some header) :
    header = "Bearer realm=\"" ++ realm ++ "\"" := by
  have hnone : Headers.joined? (Headers.under AuthTransport.challengeHeader []) = none := rfl
  have hsome (value : String) : Headers.joined?
      (Headers.under AuthTransport.challengeHeader [("WWW-Authenticate", value)]) = some value := by
    cbv
  rw [honest, Except.ok.injEq] at hreply
  subst hreply
  rw [Response.header?] at hheader
  split at hheader
  · rw [Response.issue, hnone] at hheader
    cases hheader
  · split at hheader
    · rw [hnone] at hheader
      cases hheader
    · rw [hsome] at hheader
      exact (Option.some.inj hheader).symm

/-- An answer that brings a token is accepted. -/
theorem Token.ofReply_of_issued (realm : String) {issue : Response} {token : Json}
    (h : issue.issued? = some token) : Token.ofReply realm (.ok issue) = .ok token := by
  have hsome := Token.toOption_ofReply realm (.ok issue)
  rw [Except.toOption, Option.bind_some, h] at hsome
  cases hread : Token.ofReply realm (.ok issue) with
  | error e => rw [hread] at hsome; cases hsome
  | ok v => rw [hread] at hsome; rw [Option.some.inj hsome]

namespace Request

/-- A token in ASCII that was set is what is presented. -/
theorem Authorized.presents_iff {first second : Request} {held : String}
    (hascii : ∀ c ∈ held.toList, Headers.isAscii c = true)
    (h : first.Authorized (Authorization.bearer held) second) (token : String) :
    second.Presents token ↔ held = token := by
  have hheader := Authorization.isAscii_of_mem_bearer hascii
  obtain ⟨bytes, hbytes, hvalues⟩ := h.credentials_eq
  rw [Headers.encode, Headers.encode_of_isAscii hheader] at hbytes
  obtain rfl := Except.ok.inj hbytes
  rw [Presents, Headers.get?, Headers.texts, hvalues, List.map_singleton, Text.Utf8.encodeString,
    Headers.decode_of_isAscii hheader, String.ofList_toList]
  simp [Headers.joined?, Authorization.bearer]

/-- Reading the body does not change what is presented. -/
theorem presents_of_read {r r' : Request} (h : r.read = .ok r') (token : String) :
    r'.Presents token ↔ r.Presents token := by
  obtain ⟨bytes, -, rfl⟩ := read_eq_ok h
  rfl

theorem Restates.goesTo_iff {first second : Request} (h : first.Restates second) (u : Url) :
    second.GoesTo u ↔ first.GoesTo u := by
  rw [GoesTo, GoesTo, h.url_eq]

end Request

end RegistryAuth
