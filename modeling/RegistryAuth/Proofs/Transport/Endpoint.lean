import RegistryAuth.Proofs.Registry.Agreement
import RegistryAuth.Proofs.Url.Hostname

/-!
# Whose requests get the credentials

A transport applies to a request exactly if that goes to the host and the port of its address, as
these are written there and in the URL (`AuthTransport.appliesTo_iff`): the hosts are the same but
for case and brackets, and the ports are the same once the port of the scheme stands for one that
is not written.

* What stands around host and port in an address has no part in it
  (`Address.parseChars_format_of_around`).
* A host that a URL shows in another script is none that an address names in ASCII
  (`Url.exists_foreign_of_shownHost`).

## Why not port zero

The ports are compared by whether they say something, and zero does not: a written zero counts as
the port of the scheme, in the address and in the URL.  Nor does a URL keep the usual port of a
scheme that the transport does not know (`AuthTransport.appliesTo_of_unheard_port`).
-/

namespace RegistryAuth

/-- The number of a port as it is written, if it is written. -/
def portValue? (text : List Char) : Option Int := (Number.whole 10 text).toOption

/-- The port as a URL has it before it is brought into normal form; empty where there is none. -/
def Url.portText (url : List Char) : List Char :=
  (splitAuthority (splitText url).authority).2.2

namespace AuthTransport

/-- The port that is meant: the one that is written, or else that of the scheme. -/
def meantPort (text scheme : List Char) : Option Int := (portValue? text).or (schemePort? scheme)

/-! ## Ports -/

theorem effectivePort_of_ne_zero {written : Option Int} (h : written ≠ some 0)
    (usual : Option Int) : effectivePort written usual = written.or usual := by
  unfold effectivePort
  split
  · exact absurd rfl h
  · rfl
  · rfl

/-- The port of an address is the one that is written in it. -/
theorem port_of_parseChars {address host : List Char} {port : Option (List Char)}
    {endpoint : Address} (hport : Address.IsPort port)
    (hformat : Address.parseChars address = match port with
      | none => .ok ⟨String.ofList host, none⟩
      | some digits => (Number.whole 10 digits).map fun n => ⟨String.ofList host, some n.toNat⟩)
    (hparse : Address.parseChars address = .ok endpoint) :
    endpoint.host = String.ofList host ∧
      endpoint.port.map Int.ofNat = portValue? (port.getD []) := by
  rw [hformat] at hparse
  cases port with
  | none =>
    obtain rfl := Except.ok.inj hparse
    exact ⟨rfl, (by decide : none = portValue? [])⟩
  | some digits =>
    obtain ⟨n, hn, rfl⟩ := Except.map_eq_ok hparse
    have hnonneg := Number.whole_nonneg (hport digits rfl).2 hn
    refine ⟨rfl, ?_⟩
    rw [Option.getD_some, portValue?, hn, Option.map_some, Int.ofNat_eq_natCast,
      Int.toNat_of_nonneg hnonneg]
    rfl

/-- The port of a URL means what is written in it, unless that is zero or the usual port of a
scheme that the transport does not know. -/
theorem effectivePort_of_parse {url : List Char} {u : Url} (hparse : Url.parse url = .ok u)
    (hwritten : ∀ n, portValue? (Url.portText url) = some n → n ≠ 0 ∧
      (Url.usualPort? (Url.splitText url).scheme = some n → schemePort? u.scheme = some n)) :
    effectivePort u.port (schemePort? u.scheme) = meantPort (Url.portText url) u.scheme := by
  obtain ⟨-, hport, -⟩ := Url.parse_eq_ok hparse
  rw [← Url.portText] at hport
  unfold Url.normalPort at hport
  unfold meantPort portValue? at *
  split at hport
  · next hempty =>
    rw [← Except.ok.inj hport, List.isEmpty_iff.mp hempty]
    rfl
  · split at hport
    · cases hport
    · next n hn =>
      rw [hn] at hwritten ⊢
      obtain ⟨hzero, husual⟩ := hwritten n rfl
      rw [← Except.ok.inj hport]
      split
      · next heq => exact husual heq
      · rw [effectivePort_of_ne_zero (by simpa using hzero)]
        rfl

/-! ## Hosts -/

/-- What begins like the form of another script still does in lower case. -/
theorem dropFront?_mark_of_lower {host : List Char}
    (h : Text.dropFront? Hostname.mark (Unicode.lower host) = none) :
    Text.dropFront? Hostname.mark host = none := by
  cases hscript : Text.dropFront? Hostname.mark host with
  | none => rfl
  | some rest =>
    have hlower : Unicode.lower host =
        Hostname.mark ++ Unicode.lowerFrom Hostname.mark.reverse rest := by
      rw [Text.dropFront?_eq_some_iff.mp hscript]
      rfl
    rw [Text.dropFront?_eq_some_iff.mpr hlower] at h
    cases h

/-- A host in ASCII that does not begin like the form of another script is shown by a URL exactly
if it is the host of the URL, but for case. -/
theorem lower_shownHost_eq_iff {u : Url} {shown host : List Char} (h : u.shownHost = .ok shown)
    (hascii : ∀ c ∈ host, c.toNat < 128) (hmark : Text.dropFront? Hostname.mark host = none) :
    Unicode.lower shown = host ↔ Unicode.lower u.host = host := by
  cases hscript : Text.dropFront? Hostname.mark u.host with
  | none =>
    rw [Url.shownHost_of_unmarked hscript] at h
    rw [Except.ok.inj h]
  | some rest =>
    refine iff_of_false ?_ ?_
    · rintro rfl
      obtain ⟨d, hd, hforeign⟩ := Url.exists_foreign_of_shownHost (by rw [hscript]; rfl) h
      exact absurd (hascii d hd) (by omega)
    · rintro rfl
      rw [dropFront?_mark_of_lower hmark] at hscript
      cases hscript

/-- A URL whose host cannot be shown has a host that begins like the form of another script. -/
theorem lower_host_ne_of_shownHost {u : Url} {host : List Char} {e : HostnameError}
    (h : u.shownHost = .error e) (hmark : Text.dropFront? Hostname.mark host = none) :
    Unicode.lower u.host ≠ host := by
  rintro rfl
  rw [Url.shownHost_of_unmarked (dropFront?_mark_of_lower hmark)] at h
  cases h

/-- The host of an address is ASCII. -/
theorem toNat_lt_of_mem_stripBrackets {host : List Char} (hhost : Address.IsHost host) {c : Char}
    (hc : c ∈ Address.stripBrackets (host.map Char.toLower)) : c.toNat < 128 :=
  (hhost.lower.of_mem (Text.mem_of_mem_trimBoth hc)).1

/-! ## Requests -/

/-- A transport applies where hosts and ports are the same, and says so wherever the host can be
shown. -/
theorem appliesTo_iff_of_endpoint {t : AuthTransport} {host : List Char}
    (hendpoint : t.endpoint.host = String.ofList host) (hascii : ∀ c ∈ host, c.toNat < 128)
    (hmark : Text.dropFront? Hostname.mark host = none) (u : Url) :
    (t.appliesTo u = .ok true ↔
        Unicode.lower u.host = host ∧ effectivePort u.port (schemePort? u.scheme) =
          effectivePort (t.endpoint.port.map Int.ofNat) (schemePort? u.scheme)) ∧
      ∀ shown, u.shownHost = .ok shown → ∃ applies, t.appliesTo u = .ok applies := by
  cases hshown : u.shownHost with
  | error e =>
    have hfails : t.appliesTo u = .error e := by
      rw [appliesTo, hshown]
      rfl
    rw [hfails]
    refine ⟨iff_of_false ?_ fun hsame => ?_, ?_⟩
    · rintro ⟨⟩
    · exact lower_host_ne_of_shownHost hshown hmark hsame.1
    · rintro shown ⟨⟩
  | ok shown =>
    rw [appliesTo, hshown]
    refine ⟨?_, fun _ _ => ⟨_, rfl⟩⟩
    rw [← lower_shownHost_eq_iff hshown hascii hmark, hendpoint]
    simp only [Except.map, Except.ok.injEq, Bool.and_eq_true, decide_eq_true_eq,
      String.ofList_inj]

/-- **A transport applies to a request exactly if that goes to its host and its port.**  The address
holds a host that is written in the ordinary way, with or without a port in digits, behind any
scheme and before any path; the request may go to any URL.  Hosts are compared without regard to
case and brackets, and where a port is not written, that of the scheme of the request counts.

Neither port is written as zero, and a usual port that is written is that of a scheme the transport
knows. -/
theorem appliesTo_iff {address repo : String} {identity : Identity} {t : AuthTransport}
    (hmake : make address repo identity = .ok t) {scheme : Option (List Char)} {host : List Char}
    {port : Option (List Char)} {path : List Char}
    (haddress : address.toList = Address.format scheme host port path)
    (haround : Address.IsAround scheme path) (hhost : Address.IsHost host)
    (hport : Address.IsPort port)
    (hmark : Text.dropFront? Hostname.mark (Address.stripBrackets (host.map Char.toLower)) = none)
    {url : List Char} {u : Url} (hparse : Url.parse url = .ok u)
    (hzero : portValue? (port.getD []) ≠ some 0)
    (hwritten : ∀ n, portValue? (Url.portText url) = some n → n ≠ 0 ∧
      (Url.usualPort? (Url.splitText url).scheme = some n → schemePort? u.scheme = some n)) :
    (t.appliesTo u = .ok true ↔
        Unicode.lower u.host = Address.stripBrackets (host.map Char.toLower) ∧
          meantPort (Url.portText url) u.scheme = meantPort (port.getD []) u.scheme) ∧
      (∀ m n, portValue? (Url.portText url) = some m → portValue? (port.getD []) = some n →
        m ≠ n → t.appliesTo u ≠ .ok true) ∧
      ∀ shown, u.shownHost = .ok shown → ∃ applies, t.appliesTo u = .ok applies := by
  obtain ⟨endpoint, hendpoint, rfl⟩ := make_eq_ok hmake
  rw [Address.parse, haddress] at hendpoint
  obtain ⟨hname, hnumber⟩ := port_of_parseChars hport
    (Address.parseChars_format_of_around haround hhost hport) hendpoint
  obtain ⟨hiff, hshown⟩ := appliesTo_iff_of_endpoint
    (t := ⟨address, endpoint, repo, identity, none⟩) hname
    (fun c hc => toNat_lt_of_mem_stripBrackets hhost hc) hmark u
  rw [effectivePort_of_parse hparse hwritten, hnumber, effectivePort_of_ne_zero hzero, ← meantPort]
    at hiff
  refine ⟨hiff, fun m n hm hn hne happlies => hne ?_, hshown⟩
  have hsame := (hiff.mp happlies).2
  rw [meantPort, meantPort, hm, hn] at hsame
  exact Option.some.inj hsame

/-- An address and a URL for it that are written differently in all that does not count. -/
theorem appliesTo_iff_across_spellings :
    let host := "registry.example.com".toList
    let u : Url := ⟨"https".toList, [], host, some 5000, "/v2/".toList, none, none⟩
    ∃ t, make "https://Registry.example.com:5000/lib" "lib/app" (.password "u" "p" "") = .ok t ∧
      Url.parse "HTTPS://registry.example.com:05000/v2/".toList = .ok u ∧
      t.appliesTo u = .ok true := by
  intro host u
  have haddress : Address.parse "https://Registry.example.com:5000/lib" =
      .ok ⟨"registry.example.com", some 5000⟩ := by decide +kernel
  have hparse : Url.parse "HTTPS://registry.example.com:05000/v2/".toList = .ok u := by
    decide +kernel
  have hmake := make_of_parse haddress "lib/app" (.password "u" "p" "")
  have haround : Address.IsAround (some "https".toList) "/lib".toList :=
    ⟨fun s hs => by rw [← Option.some.inj hs]; decide, fun c hc => (Option.some.inj hc).symm, nofun⟩
  have hname : Address.IsHost "Registry.example.com".toList :=
    .name (by decide) (List.all_eq_true.mp (by decide +kernel))
  have hport : Address.IsPort (some "5000".toList) := by
    intro digits hdigits
    rw [← Option.some.inj hdigits]
    exact ⟨by decide, List.all_iff_forall_prop.mp (by decide)⟩
  have hnumber : portValue? (Url.portText "HTTPS://registry.example.com:05000/v2/".toList) =
      some 5000 := by decide +kernel
  have hwritten : ∀ n, portValue? (Url.portText "HTTPS://registry.example.com:05000/v2/".toList) =
      some n → n ≠ 0 ∧ (Url.usualPort? (Url.splitText
        "HTTPS://registry.example.com:05000/v2/".toList).scheme = some n →
          schemePort? u.scheme = some n) := by
    intro n hn
    obtain rfl := Option.some.inj (hnumber.symm.trans hn)
    exact ⟨by decide, fun husual => absurd husual (by decide +kernel)⟩
  obtain ⟨hiff, -, -⟩ :=
    appliesTo_iff hmake rfl haround hname hport (by decide) hparse (by decide) hwritten
  exact ⟨_, hmake, hparse, hiff.mpr ⟨by decide +kernel, by decide +kernel⟩⟩

/-- What a transport for an address says of a URL. -/
def Says (address url : String) (applies : Bool) : Prop :=
  ∃ t u, make address "lib/app" (.password "u" "p" "") = .ok t ∧ Url.parse url.toList = .ok u ∧
    t.appliesTo u = .ok applies

/-- **Some ports are not heard.**  A written zero passes for the port of the scheme, in the URL and
in the address, and a usual port that both write is not the same where the transport does not know
it to be usual. -/
theorem appliesTo_of_unheard_port :
    Says "registry.example.com:443" "https://registry.example.com:0/v2/" true ∧
      Says "registry.example.com:0" "https://registry.example.com/v2/" true ∧
      Says "registry.example.com:80" "ws://registry.example.com:80/v2/" false := by
  refine ⟨?_, ?_, ?_⟩
  · have haddress : Address.parse "registry.example.com:443" =
        .ok ⟨"registry.example.com", some 443⟩ := by decide +kernel
    exact ⟨_,
      ⟨"https".toList, [], "registry.example.com".toList, some 0, "/v2/".toList, none, none⟩,
      make_of_parse haddress _ _, by decide +kernel, by decide +kernel⟩
  · have haddress : Address.parse "registry.example.com:0" =
        .ok ⟨"registry.example.com", some 0⟩ := by decide +kernel
    exact ⟨_, ⟨"https".toList, [], "registry.example.com".toList, none, "/v2/".toList, none, none⟩,
      make_of_parse haddress _ _, by decide +kernel, by decide +kernel⟩
  · have haddress : Address.parse "registry.example.com:80" =
        .ok ⟨"registry.example.com", some 80⟩ := by decide +kernel
    exact ⟨_, ⟨"ws".toList, [], "registry.example.com".toList, none, "/v2/".toList, none, none⟩,
      make_of_parse haddress _ _, by decide +kernel, by decide +kernel⟩

end AuthTransport
end RegistryAuth
