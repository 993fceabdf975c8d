import RegistryAuth.Proofs.Address.Spelling
import RegistryAuth.Url.Basic

/-!
# Addresses as they are written

A host is written in the ordinary way (`Address.IsHost`) if it is a name that a URL can hold, or
stands in brackets.  It is then spelled as an address needs it (`Address.IsHost.spells`), so that
`Address.parse` reads it back, and the port with it (`Address.parseChars_format_of_around`): the
host in lower case and without its brackets, and the port by its value.

The characters that matter to a reader of addresses are signs, and signs have no case; so a host
that is written in the ordinary way still is after it was put into lower case (`IsHost.lower`).
-/

namespace RegistryAuth

/-! ## Characters of hosts -/

/-- What may stand in a name is ASCII, and none of the signs that divide an address. -/
theorem Url.of_hostAdmits {c : Char} (hc : hostAdmits c = true) :
    c.toNat < 128 ∧ c ∉ ":/?#@[]".toList := by
  have hascii : c.toNat < 128 := by
    have hsigns : ∀ c ∈ "!$&'()*+,;=\"`%|\\".toList, c.toNat < 128 :=
      List.all_iff_forall_prop.mp (by decide)
    simp only [hostAdmits, Percent.isUnreserved, Bool.or_eq_true, decide_eq_true_eq,
      List.contains_iff_mem] at hc
    rcases hc with ((((((hc | rfl) | rfl) | rfl) | rfl) | hc) | hc) | hc
    · exact Unicode.toNat_lt_of_isAsciiWord (by rw [Unicode.isAsciiWord, hc]; rfl)
    all_goals first | decide | exact hsigns c hc | omega
  exact ⟨hascii, Char.forall_ascii (P := fun c => hostAdmits c = true → c ∉ ":/?#@[]".toList)
    (by decide +kernel) hascii hc⟩

theorem Url.hostAdmits_toLower {c : Char} (hc : hostAdmits c = true) :
    hostAdmits c.toLower = true :=
  Char.forall_ascii (P := fun c => hostAdmits c = true → hostAdmits c.toLower = true)
    (by decide +kernel) (of_hostAdmits hc).1 hc

namespace Address

/-- What may stand in brackets: ASCII without the signs that end a host or a name before it. -/
def IsPlain (c : Char) : Prop := c.toNat < 128 ∧ c ∉ "/?#@[]".toList

theorem IsPlain.toLower {c : Char} (hc : IsPlain c) : IsPlain c.toLower := by
  refine ⟨Char.toNat_toLower_lt hc.1, ?_⟩
  exact Char.forall_ascii (P := fun c => c ∉ "/?#@[]".toList → c.toLower ∉ "/?#@[]".toList)
    (by decide) hc.1 hc.2

/-- A host that is written in the ordinary way: a name, or an address in brackets. -/
inductive IsHost : List Char → Prop where
  | name {cs : List Char} (ne_nil : cs ≠ []) (admits : ∀ c ∈ cs, Url.hostAdmits c = true) :
      IsHost cs
  | bracketed {cs : List Char} (plain : ∀ c ∈ cs, IsPlain c) : IsHost ('[' :: cs ++ [']'])

/-- A host that is written in the ordinary way still is when it is put into lower case. -/
theorem IsHost.lower {host : List Char} (h : IsHost host) : IsHost (host.map Char.toLower) := by
  cases h with
  | name ne_nil admits =>
    refine .name (by simpa using ne_nil) fun c hc => ?_
    obtain ⟨d, hd, rfl⟩ := List.mem_map.mp hc
    exact Url.hostAdmits_toLower (admits d hd)
  | bracketed plain =>
    rw [map_toLower_bracketed]
    refine .bracketed fun c hc => ?_
    obtain ⟨d, hd, rfl⟩ := List.mem_map.mp hc
    exact (plain d hd).toLower

/-- A host is ASCII and holds nothing that ends an authority or stands before a host. -/
theorem IsHost.of_mem {host : List Char} (h : IsHost host) {c : Char} (hc : c ∈ host) :
    c.toNat < 128 ∧ c ∉ "/?#@".toList := by
  have hsub : ∀ d ∈ "/?#@".toList, d ∈ ":/?#@[]".toList ∧ d ∈ "/?#@[]".toList :=
    List.all_iff_forall_prop.mp (by decide)
  cases h with
  | name _ admits =>
    obtain ⟨hascii, hsign⟩ := Url.of_hostAdmits (admits c hc)
    exact ⟨hascii, fun hmem => hsign (hsub c hmem).1⟩
  | bracketed plain =>
    rcases mem_bracketed hc with rfl | hc | rfl
    · decide
    · exact ⟨(plain c hc).1, fun hmem => (plain c hc).2 (hsub c hmem).2⟩
    · decide

/-! ## Ordinary hosts in addresses -/

theorem spells_of_hostAdmits {cs : List Char} (hcs : ∀ c ∈ cs, Url.hostAdmits c = true) :
    Spells cs cs := by
  have hsub : ∀ d ∈ ":/[]".toList, d ∈ ":/?#@[]".toList := List.all_iff_forall_prop.mp (by decide)
  refine .name fun c hc => ?_
  obtain ⟨hascii, hsign⟩ := Url.of_hostAdmits (hcs c hc)
  exact ⟨hascii, mt (hsub c) hsign⟩

theorem spells_of_isPlain {cs : List Char} (hcs : ∀ c ∈ cs, IsPlain c) :
    Spells ('[' :: cs ++ [']']) cs := by
  have hsub : ∀ d ∈ "/[]".toList, d ∈ "/?#@[]".toList := List.all_iff_forall_prop.mp (by decide)
  exact .bracketed fun c hc => ⟨(hcs c hc).1, mt (hsub c) (hcs c hc).2⟩

theorem stripBrackets_name {cs : List Char} (hcs : ∀ c ∈ cs, Url.hostAdmits c = true) :
    stripBrackets cs = cs :=
  (spells_of_hostAdmits hcs).stripBrackets_eq

theorem stripBrackets_bracketed {cs : List Char} (hcs : ∀ c ∈ cs, IsPlain c) :
    stripBrackets ('[' :: cs ++ [']']) = cs :=
  (spells_of_isPlain hcs).stripBrackets_eq

/-- A host that is written in the ordinary way spells what is left without its brackets. -/
theorem IsHost.spells {host : List Char} (h : IsHost host) : Spells host (stripBrackets host) := by
  cases h with
  | name _ admits =>
    rw [stripBrackets_name admits]
    exact spells_of_hostAdmits admits
  | bracketed plain =>
    rw [stripBrackets_bracketed plain]
    exact spells_of_isPlain plain

/-- What is written of an address is ASCII, and nothing ends it. -/
theorem of_mem_format {host : List Char} {port : Option (List Char)} (hhost : IsHost host)
    (hport : IsPort port) {c : Char} (hc : c ∈ format none host port []) :
    c.toNat < 128 ∧ c ∉ "/?#@".toList := by
  rcases mem_format hc with hc | rfl | ⟨digits, hdigits, hc⟩
  · exact hhost.of_mem hc
  · decide
  · obtain ⟨hdigit, hascii⟩ := hport.of_mem hdigits hc
    exact ⟨hascii, Char.forall_ascii (P := fun c => c.isDigit = true → c ∉ "/?#@".toList)
      (by decide) hascii hdigit⟩

theorem not_mem_of_mem_format {host : List Char} {port : Option (List Char)} (hhost : IsHost host)
    (hport : IsPort port) {c : Char} (hc : c ∈ format none host port []) : c ∉ "/?#".toList := by
  have hsub : ∀ d ∈ "/?#".toList, d ∈ "/?#@".toList := List.all_iff_forall_prop.mp (by decide)
  exact mt (hsub c) (of_mem_format hhost hport hc).2

/-- What stands around host and port: a scheme without a colon, or none, and a path that begins
with a slash, or none; and the path holds no mark of a scheme if none stands in front. -/
structure IsAround (scheme : Option (List Char)) (path : List Char) : Prop where
  scheme_plain : ∀ s, scheme = some s → ':' ∉ s
  path_head : ∀ c, path.head? = some c → c = '/'
  path_plain : scheme = none → Text.contains [':', '/', '/'] path = false

theorem isAround_nil : IsAround none [] := ⟨nofun, nofun, fun _ => rfl⟩

theorem IsAround.surrounds {scheme : Option (List Char)} {path : List Char}
    (h : IsAround scheme path) : Surrounds scheme path where
  scheme_plain s hs :=
    Text.cutText?_eq_none_iff.mp (Text.cutText?_eq_none (by simp) (h.scheme_plain s hs))
  path_head := h.path_head
  path_plain := h.path_plain

/-- An address is read as its host in lower case, without brackets, and the value of its
port. -/
theorem parseChars_format_of_around {scheme : Option (List Char)} {host : List Char}
    {port : Option (List Char)} {path : List Char} (haround : IsAround scheme path)
    (hhost : IsHost host) (hport : IsPort port) :
    parseChars (format scheme host port path) =
      match port with
      | none => .ok ⟨String.ofList (stripBrackets (host.map Char.toLower)), none⟩
      | some digits => (Number.whole 10 digits).map fun n =>
          ⟨String.ofList (stripBrackets (host.map Char.toLower)), some n.toNat⟩ := by
  rw [hhost.spells.lower.stripBrackets_eq]
  exact parseChars_format_of_spells haround.surrounds hhost.spells hport

/-- An address that is nothing but a host and a port. -/
theorem parseChars_format {host : List Char} {port : Option (List Char)} (hhost : IsHost host)
    (hport : IsPort port) :
    parseChars (format none host port []) =
      match port with
      | none => .ok ⟨String.ofList (stripBrackets (host.map Char.toLower)), none⟩
      | some digits => (Number.whole 10 digits).map fun n =>
          ⟨String.ofList (stripBrackets (host.map Char.toLower)), some n.toNat⟩ :=
  parseChars_format_of_around isAround_nil hhost hport

/-- What is neither a bracket nor part of a port stays in the host of an address. -/
theorem mem_host_of_parseChars {addr : List Char} {a : Address} (h : parseChars addr = .ok a)
    {c : Char} (hc : c ∈ authority addr) (hsign : c ∉ ":[]".toList)
    (hdigit : Unicode.isDigit c = false) : c ∈ a.host.toList := by
  have hbracket : (c = '[' || c = ']') = false :=
    bracket_eq_false (by decide) (by decide) hsign
  have hstrip : ∀ cs : List Char, c ∈ cs → c ∈ (String.ofList (stripBrackets cs)).toList := by
    intro cs hmem
    rw [String.toList_ofList]
    exact Text.mem_trimBoth hmem hbracket
  unfold parseChars at h
  dsimp only at h
  split at h
  · rw [← Except.ok.inj h]
    exact hstrip _ hc
  · next host port hcut =>
    split at h
    · next hport =>
      obtain ⟨colon, hcolon, hsplit, -⟩ := Text.cutLast?_eq_some hcut
      obtain rfl : colon = ':' := by simpa using hcolon
      rw [hsplit, List.mem_append, List.mem_cons] at hc
      have hmem : c ∈ host := by
        rcases hc with hc | rfl | hc
        · exact hc
        · exact absurd (by decide) hsign
        · simp only [Bool.and_eq_true, List.all_eq_true] at hport
          rw [hport.1.2 c hc] at hdigit
          cases hdigit
      split at h
      · cases h
      · rw [← Except.ok.inj h]
        exact hstrip _ hmem
    · rw [← Except.ok.inj h]
      exact hstrip _ hc

end Address
end RegistryAuth
