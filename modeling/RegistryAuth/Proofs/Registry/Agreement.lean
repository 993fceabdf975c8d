import RegistryAuth.Proofs.Transport.Run
import RegistryAuth.Proofs.Url.Authority
import RegistryAuth.Registry

/-!
# The registry that is meant

One text names a registry, and three readers take it apart: `Registry.parts` for what is asked,
`Address.parse` for whom the credentials are, and `Url.parse` for where a request goes.  The
credentials are presented only where the last two agree.

* They agree on each host that is written in the ordinary way, with or without a port in digits
  (`appliesTo_of_registry`).
* They disagree wherever a name stands before the host (`appliesTo_of_userinfo`): the address
  keeps the name as part of its host, and the URL does not.
-/

namespace RegistryAuth
namespace Reference

/-- A scheme is empty, or it begins with a letter; it holds no colon and no letter in upper
case. -/
structure IsScheme (scheme : List Char) : Prop where
  colon_not_mem : ':' ∉ scheme
  wellFormed : ∀ c front, scheme = c :: front → c.isAlpha = true ∧ front.all Url.isSchemeChar = true
  lower_eq : scheme.map Char.toLower = scheme

theorem toNat_lt_of_isSchemeChar {c : Char} (hc : isSchemeChar c = true) : c.toNat < 128 := by
  simp only [isSchemeChar, Bool.or_eq_true, decide_eq_true_eq] at hc
  rcases hc with ((hc | rfl) | rfl) | rfl
  · exact Unicode.toNat_lt_of_isAsciiWord (by rw [Unicode.isAsciiWord, hc]; rfl)
  all_goals decide

theorem isScheme_map_toLower {c : Char} {front : List Char} (hc : c.isAlpha = true)
    (hall : ∀ d ∈ c :: front, isSchemeChar d = true) :
    IsScheme ((c :: front).map Char.toLower) := by
  have hascii : ∀ d ∈ c :: front, d.toNat < 128 := fun d hd => toNat_lt_of_isSchemeChar (hall d hd)
  have hchar : ∀ d ∈ c :: front, Url.isSchemeChar d.toLower = true ∧ d.toLower ≠ ':' := fun d hd =>
    Char.forall_ascii (P := fun d => isSchemeChar d = true →
      Url.isSchemeChar d.toLower = true ∧ d.toLower ≠ ':') (by decide +kernel) (hascii d hd)
      (hall d hd)
  have halpha : c.toLower.isAlpha = true :=
    Char.forall_ascii (P := fun c => c.isAlpha = true → c.toLower.isAlpha = true) (by decide)
      (hascii c List.mem_cons_self) hc
  refine ⟨fun hmem => ?_, fun d ds heq => ?_, Url.map_toLower_map_toLower hascii⟩
  · obtain ⟨d, hd, heq⟩ := List.mem_map.mp hmem
    exact (hchar d hd).2 heq
  · obtain ⟨rfl, rfl⟩ := List.cons.inj heq
    refine ⟨halpha, List.all_eq_true.mpr fun e he => ?_⟩
    obtain ⟨d, hd, rfl⟩ := List.mem_map.mp he
    exact (hchar d (List.mem_cons_of_mem c hd)).1

theorem isScheme_nil : IsScheme [] where
  colon_not_mem := List.not_mem_nil
  wellFormed _ _ h := absurd h.symm (List.cons_ne_nil _ _)
  lower_eq := rfl

theorem isScheme_splitScheme (cs : List Char) : IsScheme (splitScheme cs).1 := by
  unfold splitScheme
  split
  · split
    · next hscheme =>
      rw [Bool.and_eq_true, List.all_eq_true] at hscheme
      exact isScheme_map_toLower hscheme.1 hscheme.2
    · exact isScheme_nil
  · exact isScheme_nil

theorem isScheme_of_split {cs : List Char} {r : Reference} (h : split [] cs = .ok r) :
    IsScheme r.scheme := by
  obtain ⟨-, -, h⟩ := Except.bind_eq_ok h
  obtain ⟨-, -, h⟩ := Except.bind_eq_ok h
  have hown : r.scheme =
      if (splitScheme (clean cs)).1.isEmpty then [] else (splitScheme (clean cs)).1 := by
    rw [← Except.ok.inj h]
    rfl
  have hscheme := isScheme_splitScheme (clean cs)
  generalize (splitScheme (clean cs)).1 = own at hown hscheme
  rw [hown]
  split
  · exact isScheme_nil
  · exact hscheme

end Reference

namespace Registry

/-- Host and reference of a registry come from the same parts. -/
theorem parts_of_host {addr host url : String} (hhost : Registry.host addr = .ok host)
    (hurl : Registry.url addr defaultPath = .ok url) :
    ∃ scheme, Reference.IsScheme scheme ∧
      url.toList = scheme ++ "://".toList ++ host.toList ++ '/' :: "v2/".toList := by
  obtain ⟨⟨scheme, name⟩, hparts, rfl⟩ := Except.map_eq_ok hhost
  obtain ⟨parts, hparts', rfl⟩ := Except.map_eq_ok hurl
  rw [hparts] at hparts'
  obtain rfl := Except.ok.inj hparts'
  obtain ⟨r, hr, h⟩ := Except.bind_eq_ok hparts
  have hscheme : r.scheme = scheme := (Prod.mk.inj (Except.ok.inj h)).1
  refine ⟨scheme, hscheme ▸ Reference.isScheme_of_split hr, ?_⟩
  simp [defaultPath]

/-- The URL of a registry has the host and the port that are told apart in the registry's
name. -/
theorem parse_url_eq_ok {addr host url : String} {u : Url} (hhost : Registry.host addr = .ok host)
    (hurl : Registry.url addr defaultPath = .ok url) (hparse : Url.parse url.toList = .ok u)
    (hplain : ∀ c ∈ host.toList, c ∉ "/?#".toList) :
    Url.normalHost (Url.splitAuthority host.toList).2.1 = .ok u.host ∧
      Url.normalPort u.scheme (Url.splitAuthority host.toList).2.2 = .ok u.port := by
  obtain ⟨scheme, hscheme, htoList⟩ := parts_of_host hhost hurl
  have hsplit : Url.splitText url.toList =
      ⟨scheme, host.toList, '/' :: "v2/".toList, none, none⟩ := by
    rw [htoList]
    exact Url.splitText_of_parts hscheme.colon_not_mem hscheme.wellFormed hplain
      (List.all_iff_forall_prop.mp (by decide))
  obtain ⟨hnormal, hwritten, hlower⟩ := Url.parse_eq_ok hparse
  rw [hsplit] at hnormal hwritten hlower
  rw [hscheme.lower_eq] at hlower
  rw [hlower]
  exact ⟨hnormal, hwritten⟩

end Registry

namespace Url

/-- A host that does not begin like a name in another script is shown as it is. -/
theorem shownHost_of_unmarked {u : Url} (h : Text.dropFront? Hostname.mark u.host = none) :
    u.shownHost = .ok u.host := by
  rw [shownHost, h]
  rfl

end Url

namespace AuthTransport

/-- A port means the same whether it is written or left out for being the usual one. -/
theorem effectivePort_of_usual (n : Int) (usual : Option Int) :
    effectivePort (if usual = some n then none else some n) usual =
      effectivePort (some n) usual := by
  split
  · next h =>
    rw [h]
    by_cases hn : n = 0
    · rw [hn]
      rfl
    · simp [effectivePort]
  · rfl

/-- The port of a URL and the port of an address mean the same, if both are written as `digits`
and there is no doubt about the usual port. -/
theorem effectivePort_eq {digits scheme : List Char} (hdigits : ∀ c ∈ digits, c.isDigit = true)
    (hne : digits ≠ []) (husual : schemePort? scheme = Url.usualPort? scheme) {port : Option Int}
    (hport : Url.normalPort scheme digits = .ok port) {n : Int}
    (hn : Number.whole 10 digits = .ok n) :
    effectivePort port (schemePort? scheme) =
      effectivePort (some (Int.ofNat n.toNat)) (schemePort? scheme) := by
  rw [Url.normalPort, if_neg (by simpa using hne), hn, ← husual] at hport
  rw [← Except.ok.inj hport, effectivePort_of_usual, Int.ofNat_eq_natCast,
    Int.toNat_of_nonneg (Number.whole_nonneg hdigits hn)]

/-- The address of a transport and a URL agree on a host and a port that are written in the
ordinary way. -/
theorem appliesTo_of_format {address repo : String} {identity : Identity} {t : AuthTransport}
    {u : Url} {name : List Char} {port : Option (List Char)}
    (hmake : make address repo identity = .ok t)
    (haddress : address.toList = Address.format none name port []) (hname : Address.IsHost name)
    (hport : Address.IsPort port)
    (hmark : Text.dropFront? Hostname.mark (name.map Char.toLower) = none)
    (husual : port ≠ none → schemePort? u.scheme = Url.usualPort? u.scheme)
    (hhost : Url.normalHost name = .ok u.host)
    (hwritten : Url.normalPort u.scheme (port.getD []) = .ok u.port) :
    t.appliesTo u = .ok true := by
  obtain ⟨hlower, hascii, hunmarked⟩ := Url.normalHost_eq_ok hname hhost
  have hshown := Url.shownHost_of_unmarked (hunmarked hmark)
  have hsame : String.ofList (Unicode.lower u.host) =
      String.ofList (Address.stripBrackets (name.map Char.toLower)) := by
    rw [Unicode.lower_eq_map_toLower hascii, hlower]
  obtain ⟨endpoint, hendpoint, rfl⟩ := make_eq_ok hmake
  rw [Address.parse, haddress, Address.parseChars_format hname hport] at hendpoint
  simp only [appliesTo, hshown, Except.map, Except.ok.injEq, Bool.and_eq_true, decide_eq_true_eq]
  cases port with
  | none =>
    obtain rfl := Except.ok.inj hendpoint
    have hnone : u.port = none := (Except.ok.inj hwritten).symm
    exact ⟨hsame, by rw [hnone]; rfl⟩
  | some digits =>
    obtain ⟨hne, hdigits⟩ := hport digits rfl
    obtain ⟨n, hn, rfl⟩ := Except.map_eq_ok hendpoint
    exact ⟨hsame, effectivePort_eq hdigits hne (husual (Option.some_ne_none _)) hwritten hn⟩

/-- **A registry gets the credentials that are meant for it.**  A registry is named by a host that
is written in the ordinary way, with or without a port in digits, behind any scheme and before any
path.  If the name can be read as a URL and as an address at all, the transport for the one applies
to the other.

Two kinds of names are left out: hosts in the ASCII form of another script, which a URL shows in
that script; and ports of a scheme whose usual port the transport does not know. -/
theorem appliesTo_of_registry {addr host url repo : String} {identity : Identity}
    {t : AuthTransport} {u : Url} (hhost : Registry.host addr = .ok host)
    (hurl : Registry.url addr Registry.defaultPath = .ok url)
    (hparse : Url.parse url.toList = .ok u) (hmake : make host repo identity = .ok t)
    {name : List Char} {port : Option (List Char)}
    (htext : host.toList = Address.format none name port []) (hname : Address.IsHost name)
    (hport : Address.IsPort port)
    (hmark : Text.dropFront? Hostname.mark (name.map Char.toLower) = none)
    (husual : port ≠ none → schemePort? u.scheme = Url.usualPort? u.scheme) :
    t.appliesTo u = .ok true := by
  have hplain : ∀ c ∈ host.toList, c ∉ "/?#".toList := fun c hc =>
    Address.not_mem_of_mem_format hname hport (htext ▸ hc)
  obtain ⟨hnormal, hwritten⟩ := Registry.parse_url_eq_ok hhost hurl hparse hplain
  rw [htext, Url.splitAuthority_format hname hport] at hnormal hwritten
  exact appliesTo_of_format hmake htext hname hport hmark husual hnormal hwritten

/-- A registry with a scheme, letters in upper case, a port and a path. -/
theorem appliesTo_of_registry_with_port :
    let u : Url :=
      ⟨"http".toList, [], "registry.example.com".toList, some 5000, "/v2/".toList, none, none⟩
    ∃ t, Registry.host "HTTP://Registry.example.com:5000/lib" = .ok "Registry.example.com:5000" ∧
      Registry.url "HTTP://Registry.example.com:5000/lib" Registry.defaultPath =
        .ok "http://Registry.example.com:5000/v2/" ∧
      Url.parse "http://Registry.example.com:5000/v2/".toList = .ok u ∧
      make "Registry.example.com:5000" "lib/app" (.password "u" "p" "") = .ok t ∧
      Address.IsHost "Registry.example.com".toList ∧ Address.IsPort (some "5000".toList) ∧
      t.appliesTo u = .ok true := by
  intro u
  have hhost : Registry.host "HTTP://Registry.example.com:5000/lib" =
      .ok "Registry.example.com:5000" := by decide +kernel
  have hurl : Registry.url "HTTP://Registry.example.com:5000/lib" Registry.defaultPath =
      .ok "http://Registry.example.com:5000/v2/" := by decide +kernel
  have hparse : Url.parse "http://Registry.example.com:5000/v2/".toList = .ok u := by decide +kernel
  have haddress : Address.parse "Registry.example.com:5000" =
      .ok ⟨"registry.example.com", some 5000⟩ := by decide +kernel
  have hmake := make_of_parse haddress "lib/app" (.password "u" "p" "")
  have hname : Address.IsHost "Registry.example.com".toList :=
    .name (by decide) (List.all_eq_true.mp (by decide +kernel))
  have hport : Address.IsPort (some "5000".toList) := by
    intro digits hdigits
    rw [← Option.some.inj hdigits]
    exact ⟨by decide, List.all_iff_forall_prop.mp (by decide)⟩
  exact ⟨_, hhost, hurl, hparse, hmake, hname, hport,
    appliesTo_of_registry hhost hurl hparse hmake rfl hname hport (by decide) fun _ => rfl⟩

/-- **A name before the host keeps the credentials back.**  Where a registry is named with a
name, or a name and a password, before its host, no request that is made for it gets its
credentials. -/
theorem appliesTo_of_userinfo {addr host url repo : String} {identity : Identity}
    {t : AuthTransport} {u : Url} (hhost : Registry.host addr = .ok host)
    (hurl : Registry.url addr Registry.defaultPath = .ok url)
    (hparse : Url.parse url.toList = .ok u) (hmake : make host repo identity = .ok t)
    {userinfo name : List Char} {port : Option (List Char)}
    (htext : host.toList = userinfo ++ '@' :: Address.format none name port [])
    (huserinfo : ∀ c ∈ userinfo, c.toNat < 128 ∧ c ∉ "/?#".toList) (hname : Address.IsHost name)
    (hport : Address.IsPort port)
    (hmark : Text.dropFront? Hostname.mark (name.map Char.toLower) = none) :
    t.appliesTo u = .ok false := by
  have hplain : ∀ c ∈ host.toList, c.toNat < 128 ∧ c ∉ "/?#".toList := by
    intro c hc
    rw [htext, List.mem_append, List.mem_cons] at hc
    rcases hc with hc | rfl | hc
    · exact huserinfo c hc
    · decide
    · exact ⟨(Address.of_mem_format hname hport hc).1,
        Address.not_mem_of_mem_format hname hport hc⟩
  have hat : '@' ∉ Address.format none name port [] := fun hc =>
    absurd (by decide) (Address.of_mem_format hname hport hc).2
  obtain ⟨hnormal, -⟩ := Registry.parse_url_eq_ok hhost hurl hparse fun c hc => (hplain c hc).2
  rw [htext, Url.splitAuthority_of_userinfo userinfo hat, Url.splitAuthority_format hname hport]
    at hnormal
  obtain ⟨hlower, hascii, hunmarked⟩ := Url.normalHost_eq_ok hname hnormal
  have hshown := Url.shownHost_of_unmarked (hunmarked hmark)
  -- the at sign is in the host of the address, and not in that of the URL
  obtain ⟨endpoint, hendpoint, rfl⟩ := make_eq_ok hmake
  have hkept : '@' ∈ endpoint.host.toList := by
    refine Address.mem_host_of_parseChars hendpoint ?_ (by decide) (by decide)
    rw [Address.authority_eq_lower fun hc => absurd (by decide) (hplain '/' hc).2,
      Unicode.lower_eq_map_toLower fun c hc => (hplain c hc).1, htext]
    exact List.mem_map.mpr ⟨'@', by simp, rfl⟩
  have hlost : '@' ∉ Unicode.lower u.host := by
    rw [Unicode.lower_eq_map_toLower hascii, hlower]
    intro hc
    exact absurd (by decide) (hname.lower.of_mem (Text.mem_of_mem_trimBoth hc)).2
  have hne : String.ofList (Unicode.lower u.host) ≠ endpoint.host := by
    intro heq
    rw [← heq, String.toList_ofList] at hkept
    exact hlost hkept
  simp [appliesTo, hshown, Except.map, hne]

/-- The name of the registry can be read by all three, and the credentials for it are not
presented where they belong. -/
def Drifts (addr : String) : Prop :=
  ∃ host url u t, Registry.host addr = .ok host ∧
    Registry.url addr Registry.defaultPath = .ok url ∧ Url.parse url.toList = .ok u ∧
    make host "lib/app" (.password "u" "p" "") = .ok t ∧ t.appliesTo u = .ok false

/-- **The readers do not always agree.**  They drift apart at a name before the host, at a colon
without a port, and at the usual port of a scheme of which the transport does not know the usual
port. -/
theorem appliesTo_of_drifting_names :
    Drifts "bob@registry.example.com" ∧ Drifts "registry.example.com:" ∧
      Drifts "ftp://registry.example.com:21" := by
  refine ⟨?_, ?_, ?_⟩
  · have haddress : Address.parse "bob@registry.example.com" =
        .ok ⟨"bob@registry.example.com", none⟩ := by decide +kernel
    exact ⟨"bob@registry.example.com", "https://bob@registry.example.com/v2/",
      ⟨"https".toList, "bob".toList, "registry.example.com".toList, none, "/v2/".toList, none,
        none⟩, _, by decide +kernel, by decide +kernel, by decide +kernel,
      make_of_parse haddress _ _, by decide +kernel⟩
  · have haddress : Address.parse "registry.example.com:" =
        .ok ⟨"registry.example.com:", none⟩ := by decide +kernel
    exact ⟨"registry.example.com:", "https://registry.example.com:/v2/",
      ⟨"https".toList, [], "registry.example.com".toList, none, "/v2/".toList, none, none⟩, _,
      by decide +kernel, by decide +kernel, by decide +kernel, make_of_parse haddress _ _,
      by decide +kernel⟩
  · have haddress : Address.parse "registry.example.com:21" =
        .ok ⟨"registry.example.com", some 21⟩ := by decide +kernel
    exact ⟨"registry.example.com:21", "ftp://registry.example.com:21/v2/",
      ⟨"ftp".toList, [], "registry.example.com".toList, none, "/v2/".toList, none, none⟩, _,
      by decide +kernel, by decide +kernel, by decide +kernel, make_of_parse haddress _ _,
      by decide +kernel⟩

end AuthTransport
end RegistryAuth
