import RegistryAuth.Proofs.Transport.Endpoint
import RegistryAuth.Proofs.Url.Script

/-!
# Registries with names in other scripts

The address of a registry keeps a name as it is written, in lower case; a URL keeps the ASCII form
of the name and shows it in its script again.  The two are compared as they are read, so the
credentials of a registry reach it only if its name is shown as it was written:

* the name of an address is the written one in lower case, in which no sign arises that would divide
  it (`Address.parseChars_format_of_isUndivided`, `Address.IsUndivided.lower`);
* a written port means the same on both sides (`AuthTransport.effectivePort_of_written`);
* so all depends on the name, and `Url.shownHost_of_toAscii` decides
  (`AuthTransport.appliesTo_iff_of_script`).

A registry at `bücher.example` is recognized, and one at `registry.bücher.example` is not: a request
to it goes out without its credentials.
-/

namespace RegistryAuth
namespace Address

/-- No sign of an address or a URL divides the name. -/
def IsUndivided (name : List Char) : Prop := ∀ c ∈ name, c ∉ ":/?#@[]".toList

variable {name : List Char} {port : Option (List Char)}

/-- No sign arises in lower case. -/
theorem IsUndivided.lower (h : IsUndivided name) : IsUndivided (Unicode.lower name) := by
  have hbarred : ∀ c ∈ ":/?#@[]".toList, Unicode.IsBarred c.toNat :=
    List.all_iff_forall_prop.mp (by decide)
  exact fun c hc hsign => h c (Unicode.mem_of_mem_lower hc (hbarred c hsign)) hsign

theorem not_mem_of_isUndivided (h : IsUndivided name) (hport : IsPort port) {c : Char}
    (hc : c ∈ format none name port []) : c ∉ "/?#".toList := by
  have hsub : ∀ d ∈ "/?#".toList, d ∈ ":/?#@[]".toList := List.all_iff_forall_prop.mp (by decide)
  rcases mem_format hc with hc | rfl | ⟨digits, hdigits, hc⟩
  · exact mt (hsub c) (h c hc)
  · decide
  · obtain ⟨hdigit, hascii⟩ := hport.of_mem hdigits hc
    exact Char.forall_ascii (P := fun c => c.isDigit = true → c ∉ "/?#".toList) (by decide) hascii
      hdigit

/-- A port has no part in the lower case of the name in front of it. -/
theorem lower_format (hport : IsPort port) :
    Unicode.lower (format none name port []) = format none (Unicode.lower name) port [] := by
  cases port with
  | none => simp [format]
  | some digits =>
    have htail : ∀ c ∈ ':' :: digits, c.toNat ≤ 0x3A := by
      refine List.forall_mem_cons.mpr ⟨by decide, fun c hc => ?_⟩
      obtain ⟨hdigit, hascii⟩ := hport.of_mem rfl hc
      exact Char.forall_ascii (P := fun c => c.isDigit = true → c.toNat ≤ 0x3A) (by decide) hascii
        hdigit
    simpa [format] using Unicode.lower_append htail name

/-- A name and a port are read as the name in lower case and the number of the port. -/
theorem parseChars_format_of_isUndivided (h : IsUndivided name) (hport : IsPort port) :
    parseChars (format none name port []) =
      match port with
      | none => .ok ⟨String.ofList (Unicode.lower name), none⟩
      | some digits => (Number.whole 10 digits).map fun n =>
          ⟨String.ofList (Unicode.lower name), some n.toNat⟩ := by
  have hlower := h.lower
  have hslash : '/' ∉ format none name port [] := fun hc =>
    not_mem_of_isUndivided h hport hc (by decide)
  have hauthority : authority (format none name port []) =
      format none (Unicode.lower name) port [] := by
    rw [authority_eq_lower hslash, lower_format hport]
  have hbracket : ∀ c ∈ Unicode.lower name, (c = '[' || c = ']') = false := fun c hc =>
    bracket_eq_false (by decide) (by decide) (hlower c hc)
  have hstrip : stripBrackets (Unicode.lower name) = Unicode.lower name :=
    Text.trimBoth_eq_self (fun c hc => hbracket c (List.mem_of_head? hc)) fun c hc =>
      hbracket c (List.mem_of_getLast? hc)
  have hcolon : ':' ∉ Unicode.lower name := fun hc => hlower ':' hc (by decide)
  cases port with
  | none =>
    have hcut : Text.cutLast? (· = ':') (Unicode.lower name) = none :=
      Text.cutLast?_eq_none_iff.mpr (Text.decide_eq_false_of_not_mem hcolon)
    have hname : format none (Unicode.lower name) none [] = Unicode.lower name := by simp [format]
    rw [hname] at hauthority
    unfold parseChars
    rw [hauthority]
    dsimp only
    rw [hcut, hstrip]
  | some digits =>
    obtain ⟨hne, hdigits⟩ := hport digits rfl
    have hlast : (Unicode.lower name).getLast? ≠ some ':' := fun hlast =>
      hcolon (List.mem_of_getLast? hlast)
    have hname : format none (Unicode.lower name) (some digits) [] =
        Unicode.lower name ++ ':' :: digits := by simp [format]
    rw [hname] at hauthority
    rw [parseChars_of_port hlast hne hdigits hauthority, hstrip]

end Address

namespace AuthTransport

/-- A port that is written in a URL and in an address means the same in both. -/
theorem effectivePort_of_written {u : Url} {port : Option (List Char)} {written : Option Nat}
    (hport : Address.IsPort port)
    (husual : port ≠ none → schemePort? u.scheme = Url.usualPort? u.scheme)
    (hurl : Url.normalPort u.scheme (port.getD []) = .ok u.port)
    (haddress : written.map Int.ofNat = portValue? (port.getD [])) :
    effectivePort u.port (schemePort? u.scheme) =
      effectivePort (written.map Int.ofNat) (schemePort? u.scheme) := by
  rw [haddress]
  cases port with
  | none =>
    have hnone : u.port = none := (Except.ok.inj hurl).symm
    rw [hnone]
    rfl
  | some digits =>
    obtain ⟨hne, -⟩ := hport digits rfl
    rw [Option.getD_some, Url.normalPort, if_neg (by simpa using hne),
      ← husual (Option.some_ne_none _)] at hurl
    rw [Option.getD_some, portValue?]
    cases hn : Number.whole 10 digits with
    | error e => rw [hn] at hurl; cases hurl
    | ok n =>
      rw [hn] at hurl
      rw [← Except.ok.inj hurl]
      exact effectivePort_of_usual n _

/-- Where the ports are the same, a transport applies if the host is shown as it is in the
address. -/
theorem appliesTo_eq_of_ports {t : AuthTransport} {u : Url} {host : List Char}
    (hhost : t.endpoint.host = String.ofList host)
    (hports : effectivePort u.port (schemePort? u.scheme) =
      effectivePort (t.endpoint.port.map Int.ofNat) (schemePort? u.scheme)) :
    t.appliesTo u = u.shownHost.map fun shown => decide (Unicode.lower shown = host) := by
  unfold appliesTo
  congr 1
  funext shown
  simp only [hhost, hports, decide_true, Bool.and_true, String.ofList_inj]

/-- **A registry with a name in another script gets the credentials that are meant for it** exactly
if the name begins with a label in another script, has no other dots than full stops, and no label
in ASCII form.

The name is one that becomes no name in ASCII in lower case, with or without a port in digits,
behind any scheme and before any path; as of the names in ASCII, ports of a scheme whose usual port
the transport does not know are left out. -/
theorem appliesTo_iff_of_script {addr host url repo : String} {identity : Identity}
    {t : AuthTransport} {u : Url} (hhost : Registry.host addr = .ok host)
    (hurl : Registry.url addr Registry.defaultPath = .ok url)
    (hparse : Url.parse url.toList = .ok u) (hmake : make host repo identity = .ok t)
    {name : List Char} {port : Option (List Char)}
    (htext : host.toList = Address.format none name port []) (hname : Address.IsUndivided name)
    (hforeign : ∃ c ∈ Unicode.lower name, 128 ≤ c.toNat) (hport : Address.IsPort port)
    (husual : port ≠ none → schemePort? u.scheme = Url.usualPort? u.scheme) :
    ∃ applies, t.appliesTo u = .ok applies ∧
      (applies = true ↔ Hostname.ShowsItself (Unicode.lower name)) := by
  have hsign {c : Char} (hc : c ∈ ":/?#@[]".toList) : c ∉ name := fun hmem => hname c hmem hc
  have hplain : ∀ c ∈ host.toList, c ∉ "/?#".toList := fun c hc =>
    Address.not_mem_of_isUndivided hname hport (htext ▸ hc)
  have hopen : name.head? ≠ some '[' := fun hhead => hsign (by decide) (List.mem_of_mem_head? hhead)
  obtain ⟨hnormal, hwritten⟩ := Registry.parse_url_eq_ok hhost hurl hparse hplain
  rw [htext, Url.splitAuthority_of_name (hsign (by decide)) (hsign (by decide)) hopen hport]
    at hnormal hwritten
  have hascii :=
    Url.toAscii_of_normalHost hopen (Unicode.exists_foreign_of_mem_lower hforeign) hnormal
  obtain ⟨shown, hshown, hiff⟩ := Url.shownHost_of_toAscii
    (fun _ hc => Unicode.isLower_of_mem_lower hc) hforeign hascii
  obtain ⟨endpoint, hendpoint, rfl⟩ := make_eq_ok hmake
  rw [Address.parse, htext] at hendpoint
  obtain ⟨hendhost, hendport⟩ := port_of_parseChars hport
    (Address.parseChars_format_of_isUndivided hname hport) hendpoint
  have hports := effectivePort_of_written hport husual hwritten hendport
  refine ⟨decide (Unicode.lower shown = Unicode.lower name), ?_, by rw [decide_eq_true_iff, hiff]⟩
  rw [appliesTo_eq_of_ports (t := ⟨host, endpoint, repo, identity, none⟩) hendhost hports, hshown]
  rfl

end AuthTransport
end RegistryAuth
