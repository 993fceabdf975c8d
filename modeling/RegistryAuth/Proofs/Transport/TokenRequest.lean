import RegistryAuth.Proofs.Credential.Authorization
import RegistryAuth.Proofs.Http.Headers
import RegistryAuth.Proofs.Text.Cut
import RegistryAuth.Proofs.Unicode.Ascii
import RegistryAuth.Proofs.Url.Form
import RegistryAuth.Transport.Basic

/-!
# Requests for a token

Wherever a plain request to a realm can be made, so can the request that exchanges an
identity for a token there, unless the query in which service and scope stand is too long
(`exists_request`; `Request.query_eq_error` for the rest).  It goes to the realm: only the query
of its URL is its own.

* A form is written in a few signs (`Form.isPlain_of_mem_encode`), none of which ends a query
  or may not stand in a URL, so that only its length can be at fault
  (`Url.checkPart_encode`).
* The query of a URL has no part in whether the rest is one (`Url.normal_withQuery`).
-/

namespace RegistryAuth

/-! ## The text of a form -/

namespace Form

/-- Whether a form may be written with `c`. -/
def isPlain (c : Char) : Bool :=
  Percent.isUnreserved c || c = '+' || c = '%' || c = '=' || c = '&'

theorem toNat_lt_of_isPlain {c : Char} (hc : isPlain c = true) : c.toNat < 128 := by
  simp only [isPlain, Bool.or_eq_true, decide_eq_true_eq] at hc
  rcases hc with (((hc | rfl) | rfl) | rfl) | rfl
  · exact toNat_lt_of_isUnreserved hc
  all_goals decide

/-- None of the signs of a form is a control or a hash. -/
theorem of_isPlain {c : Char} (hc : isPlain c = true) : Url.isControl c = false ∧ c ≠ '#' :=
  Char.forall_ascii (P := fun c => isPlain c = true → Url.isControl c = false ∧ c ≠ '#')
    (by decide) (toNat_lt_of_isPlain hc) hc

theorem isPlain_of_mem_encodePart {cs : List Char} {d : Char} (hd : d ∈ encodePart cs) :
    isPlain d = true := by
  rcases of_mem_encodePart hd with h | rfl | rfl
  · simp [isPlain, h]
  · rfl
  · rfl

/-- A form is written in letters, digits and a few signs, whatever its fields hold. -/
theorem isPlain_of_mem_encode {fields : List (List Char × List Char)} {d : Char}
    (hd : d ∈ encode fields) : isPlain d = true := by
  rcases Text.mem_intercalate hd with hd | ⟨part, hpart, hd⟩
  · rw [List.mem_singleton.mp hd]; rfl
  · obtain ⟨field, -, rfl⟩ := List.mem_map.mp hpart
    rw [encodeField, List.mem_append, List.mem_cons] at hd
    rcases hd with hd | rfl | hd
    · exact isPlain_of_mem_encodePart hd
    · rfl
    · exact isPlain_of_mem_encodePart hd

theorem encodeChar_ne_nil (c : Char) : encodeChar c ≠ [] := by
  unfold encodeChar
  split
  · exact List.cons_ne_nil _ _
  · split
    · exact List.cons_ne_nil _ _
    · unfold Percent.escapeChar Text.Utf8.encodeChar
      dsimp only
      split_ifs <;> simp [Percent.escapeByte]

/-- A text gets no shorter when it is written in a form. -/
theorem length_le_encodePart (cs : List Char) : cs.length ≤ (encodePart cs).length := by
  induction cs with
  | nil => exact Nat.zero_le _
  | cons c cs ih =>
    have hpos := List.length_pos_iff.mpr (encodeChar_ne_nil c)
    rw [encodePart, List.flatMap_cons, List.length_append, List.length_cons]
    rw [encodePart] at ih
    omega

end Form

namespace Url

/-- A form can be the query of a URL, unless it is too long. -/
theorem checkPart_encode {fields : List (List Char × List Char)}
    (hlength : (Form.encode fields).length ≤ maxLength) :
    checkPart .query ['#'] (Form.encode fields) = .ok () := by
  have hplain := fun c (hc : c ∈ Form.encode fields) =>
    Form.of_isPlain (Form.isPlain_of_mem_encode hc)
  have hcontrol : control? (Form.encode fields) = none := by
    rw [control?, List.find?_eq_none.mpr fun c hc => by simp [(hplain c hc).1]]
    rfl
  have hhash : (Form.encode fields).any ['#'].contains = false := by
    rw [List.any_eq_false]
    intro c hc
    simpa using (hplain c hc).2
  rw [checkPart, if_neg (by omega), hcontrol, hhash]
  rfl

/-- The query of a URL has no part in whether the rest of it is one, and the rest is the same
whatever the query is. -/
theorem normal_withQuery (p : UrlParts) (query : Option (List Char)) :
    normal { p with query := query } =
      (normal p).map fun u => { u with query := query.map (Percent.escapeRest queryAdmits) } := by
  unfold normal
  dsimp only
  generalize (splitAuthority p.authority).1 = userinfo
  generalize (splitAuthority p.authority).2.1 = host
  generalize (splitAuthority p.authority).2.2 = port
  unfold assemble
  cases normalHost host with
  | error e => rfl
  | ok host =>
    cases normalPort p.scheme port with
    | error e => rfl
    | ok port =>
      dsimp only [bind, Except.bind]
      cases checkPath _ _ p.path <;> rfl

/-- What is read with a query of its own is what is read without, but for the query. -/
theorem parseWithQuery_eq {cs query : List Char} (hquery : checkPart .query ['#'] query = .ok ()) :
    parseWithQuery cs query =
      (parse cs).map fun u => { u with query := some (Percent.escapeRest queryAdmits query) } := by
  unfold parseWithQuery parse
  rw [hquery, normal_withQuery]
  cases checkText cs <;> rfl

end Url

namespace Request

/-- The request goes to a URL, whatever its query is. -/
def GoesTo (r : Request) (u : Url) : Prop := { r.url with query := u.query } = u

instance (r : Request) (u : Url) : Decidable (r.GoesTo u) := inferInstanceAs (Decidable (_ = _))

/-- A request whose headers name no host is made for a URL whose host can be shown. -/
theorem ofUrl_eq_ok_of_hostless {method : String} {u : Url} (headers : Headers) {body : List UInt8}
    {r : Request} (hheaders : headers.contains "Host" = false)
    (h : ofUrl method u headers body = .ok r) :
    ∃ host, u.shownHost = .ok host ∧
      r = ⟨Unicode.upperString method, u, headers.copy, .held body⟩ := by
  unfold ofUrl at h
  rw [hheaders, if_neg Bool.false_ne_true] at h
  cases hhost : u.shownHost with
  | error e => rw [hhost] at h; cases h
  | ok host =>
    rw [hhost] at h
    exact ⟨host, rfl, (Except.ok.inj h).symm⟩

/-- A request without headers is made for a URL whose host can be shown. -/
theorem make_eq_ok {method url : String} {body : List UInt8} {r : Request}
    (h : make method url [] body = .ok r) :
    ∃ u host, Url.parse url.toList = .ok u ∧ u.shownHost = .ok host ∧
      r = ⟨Unicode.upperString method, u, .empty, .held body⟩ := by
  unfold make at h
  cases hparse : Url.parse url.toList with
  | error e => rw [hparse] at h; cases h
  | ok u =>
    rw [hparse] at h
    obtain ⟨host, hhost, rfl⟩ := ofUrl_eq_ok_of_hostless .empty (by decide) h
    exact ⟨u, host, rfl, hhost, rfl⟩

/-- A request whose headers name no host is made if the host of its URL can be shown. -/
theorem ofUrl_eq {u : Url} {host : List Char} (hhost : u.shownHost = .ok host) (method : String)
    (headers : Headers) (hheaders : headers.contains "Host" = false) (body : List UInt8) :
    ofUrl method u headers body =
      .ok ⟨Unicode.upperString method, u, headers.copy, .held body⟩ := by
  simp only [ofUrl, hheaders, Bool.false_eq_true, if_false, hhost]

/-- A request without headers is made wherever the host of the URL can be shown. -/
theorem make_eq {url : String} {u : Url} {host : List Char} (hparse : Url.parse url.toList = .ok u)
    (hhost : u.shownHost = .ok host) (method : String) (body : List UInt8) :
    make method url [] body = .ok ⟨Unicode.upperString method, u, .empty, .held body⟩ := by
  simp only [make, hparse]
  exact ofUrl_eq hhost method .empty (by decide) body

/-- The headers of a form that is posted. -/
def formHeaders : Headers :=
  ⟨[("Content-Type", Text.Utf8.encodeString "application/x-www-form-urlencoded")], none⟩

/-- A form is sent to a URL whose host can be shown. -/
theorem form_eq {url : String} {u : Url} {host : List Char}
    (hparse : Url.parse url.toList = .ok u) (hhost : u.shownHost = .ok host)
    (fields : List (String × String)) :
    form url fields = .ok ⟨Unicode.upperString "POST", u, formHeaders,
      .held (Text.Utf8.encodeString (Form.encodeStrings fields))⟩ := by
  simp only [form, make, hparse]
  exact ofUrl_eq hhost "POST" formHeaders (by decide) _

/-- A form is sent nowhere else. -/
theorem form_eq_ok {url : String} {fields : List (String × String)} {r : Request}
    (h : form url fields = .ok r) :
    ∃ u host, Url.parse url.toList = .ok u ∧ u.shownHost = .ok host ∧
      r = ⟨Unicode.upperString "POST", u, formHeaders,
        .held (Text.Utf8.encodeString (Form.encodeStrings fields))⟩ := by
  unfold form make at h
  cases hparse : Url.parse url.toList with
  | error e => rw [hparse] at h; cases h
  | ok u =>
    rw [hparse] at h
    obtain ⟨host, hhost, rfl⟩ := ofUrl_eq_ok_of_hostless formHeaders (by decide) h
    exact ⟨u, host, rfl, hhost, rfl⟩

/-- The fields of a form are asked for at a URL whose host can be shown, unless they are too
long for a query. -/
theorem query_eq {url : String} {u : Url} {host : List Char}
    (hparse : Url.parse url.toList = .ok u) (hhost : u.shownHost = .ok host)
    {fields : List (String × String)}
    (hlength : (Form.encodeStrings fields).toList.length ≤ Url.maxLength) :
    let text := Percent.escapeRest Url.queryAdmits (Form.encodeStrings fields).toList
    query url fields =
      .ok ⟨Unicode.upperString "GET", { u with query := some text }, .empty, .held []⟩ := by
  intro text
  have hcheck : Url.checkPart .query ['#'] (Form.encodeStrings fields).toList = .ok () := by
    rw [Form.encodeStrings, String.toList_ofList] at hlength ⊢
    exact Url.checkPart_encode hlength
  have hasked : ({ u with query := some text } : Url).shownHost = .ok host := hhost
  unfold query
  rw [Url.parseWithQuery_eq hcheck, hparse]
  exact ofUrl_eq hasked "GET" .empty (by decide) []

/-- Fields that are too long for a query cannot be asked for anywhere. -/
theorem query_eq_error {url : String} (htext : Url.checkText url.toList = .ok ())
    {fields : List (String × String)}
    (hlength : Url.maxLength < (Form.encodeStrings fields).toList.length) :
    query url fields = .error (.url (.partTooLong .query)) := by
  simp only [query, Url.parseWithQuery, htext, Url.checkPart, if_pos hlength]
  rfl

/-- Fields are asked for nowhere else. -/
theorem query_eq_ok {url : String} {fields : List (String × String)} {r : Request}
    (h : query url fields = .ok r) :
    let text := Percent.escapeRest Url.queryAdmits (Form.encodeStrings fields).toList
    (Form.encodeStrings fields).toList.length ≤ Url.maxLength ∧
      ∃ u host, Url.parse url.toList = .ok u ∧ u.shownHost = .ok host ∧
        r = ⟨Unicode.upperString "GET", { u with query := some text }, .empty, .held []⟩ := by
  intro text
  unfold query at h
  cases hasked : Url.parseWithQuery url.toList (Form.encodeStrings fields).toList with
  | error e => rw [hasked] at h; cases h
  | ok asked =>
    rw [hasked] at h
    obtain ⟨⟨⟩, -, hcheck⟩ := Except.bind_eq_ok hasked
    obtain ⟨⟨⟩, hquery, -⟩ := Except.bind_eq_ok hcheck
    rw [Url.parseWithQuery_eq hquery] at hasked
    obtain ⟨u, hparse, rfl⟩ := Except.map_eq_ok hasked
    obtain ⟨host, hhost, rfl⟩ := ofUrl_eq_ok_of_hostless .empty (by decide) h
    refine ⟨?_, u, host, hparse, hhost, rfl⟩
    by_contra hlength
    rw [Url.checkPart, if_pos (by omega)] at hquery
    cases hquery

end Request

namespace Token

/-- A request for a token goes to a realm whose host can be shown.  What is asked is short enough,
and takes the place of the query there. -/
theorem request_eq_ok {identity : Identity} {realm service scope : String} {r : Request}
    (h : request identity realm service scope = .ok r) :
    ∃ u host, Url.parse realm.toList = .ok u ∧ u.shownHost = .ok host ∧
      match identity with
      | .token _ _ => r.url = u
      | .password _ _ _ =>
        let asked := (Form.encodeStrings (queryFields service scope)).toList
        asked.length ≤ Url.maxLength ∧
          r.url = { u with query := some (Percent.escapeRest Url.queryAdmits asked) } := by
  cases identity with
  | token token address =>
    obtain ⟨u, host, hparse, hhost, rfl⟩ := Request.form_eq_ok h
    exact ⟨u, host, hparse, hhost, rfl⟩
  | password username password address =>
    simp only [request] at h
    cases hquery : Request.query realm (queryFields service scope) with
    | error e => rw [hquery] at h; cases h
    | ok plain =>
      obtain ⟨hlength, u, host, hparse, hhost, hplain⟩ := Request.query_eq_ok hquery
      refine ⟨u, host, hparse, hhost, hlength, ?_⟩
      rw [hquery] at h
      dsimp only at h
      split at h
      · rw [← Except.ok.inj h, hplain]
      · obtain ⟨bytes, -, rfl⟩ := Request.authorize_eq_ok (Except.mapError_eq_ok h)
        rw [hplain]

/-- **A request for a token can be made for each realm that a request can be made for**, unless
it needs a query that is too long; and it goes to the realm. -/
theorem exists_request {realm : String} {plain : Request}
    (hplain : Request.make "GET" realm [] [] = .ok plain) (identity : Identity)
    {service scope : String}
    (hquery : (∃ token address, identity = .token token address) ∨
      (Form.encodeStrings (queryFields service scope)).toList.length ≤ Url.maxLength) :
    ∃ r, request identity realm service scope = .ok r ∧ r.GoesTo plain.url := by
  obtain ⟨u, host, hparse, hhost, rfl⟩ := Request.make_eq_ok hplain
  cases identity with
  | token token address => exact ⟨_, Request.form_eq hparse hhost _, rfl⟩
  | password username password address =>
    have hlength := hquery.resolve_left fun ⟨_, _, h⟩ => Identity.noConfusion h
    simp only [request, Request.query_eq hparse hhost hlength]
    split
    · exact ⟨_, rfl, rfl⟩
    · rw [Request.authorize_of_isAscii fun c hc => Authorization.isAscii_of_mem_basic hc]
      exact ⟨_, rfl, rfl⟩

/-- Nowhere else can a request for a token be made. -/
theorem exists_request_iff {identity : Identity} {realm service scope : String} :
    (∃ r, request identity realm service scope = .ok r) ↔
      (∃ plain, Request.make "GET" realm [] [] = .ok plain) ∧
        ((∃ token address, identity = .token token address) ∨
          (Form.encodeStrings (queryFields service scope)).toList.length ≤ Url.maxLength) := by
  constructor
  · rintro ⟨r, hr⟩
    obtain ⟨u, host, hparse, hhost, hurl⟩ := request_eq_ok hr
    refine ⟨⟨_, Request.make_eq hparse hhost "GET" []⟩, ?_⟩
    cases identity with
    | token token address => exact .inl ⟨token, address, rfl⟩
    | password username password address => exact .inr hurl.1
  · rintro ⟨⟨plain, hplain⟩, hquery⟩
    obtain ⟨r, hr, -⟩ := exists_request hplain identity hquery
    exact ⟨r, hr⟩

end Token
end RegistryAuth
