import RegistryAuth.Proofs.Address.Host
import RegistryAuth.Proofs.Except

/-!
# Hosts and ports in URLs

`Url.parse` takes a URL apart and brings its parts into normal form.  Of a URL that is put
together from a scheme, a host, a port and a path it finds just these (`splitText_of_parts`,
`splitAuthority_format`), and of a host that is written in the ordinary way the normal form is
the host without its brackets, but for the case of its letters (`normalHost_eq_ok`).

An address in brackets never looks like a name in another script (`dropFront?_mark_of_isV6`), so
that it is shown as it stands.
-/

namespace RegistryAuth

/-! ## Characters that need no escape -/

/-- Nothing is escaped where everything is admitted. -/
theorem Percent.escapeRest_eq_self {admits : Char → Bool} {cs : List Char}
    (hcs : ∀ c ∈ cs, admits c = true) : escapeRest admits cs = cs := by
  fun_induction escapeRest admits cs with
  | case1 => rfl
  | case2 a b cs _ ih =>
    rw [ih fun c hc => hcs c (by simp [hc])]
  | case3 a b cs _ ih =>
    rw [if_pos (hcs '%' List.mem_cons_self), ih fun c hc => hcs c (List.mem_cons_of_mem _ hc)]
    rfl
  | case4 c cs _ ih =>
    rw [if_pos (hcs c List.mem_cons_self), ih fun c hc => hcs c (List.mem_cons_of_mem _ hc)]
    rfl

namespace IpAddress

theorem isGroup_cons_eq_false {c : Char} (hc : Unicode.hexDigit? c = none) (cs : List Char) :
    isGroup (c :: cs) = false := by
  simp [isGroup, hc]

/-- Only the last of the groups may be written in another way. -/
theorem head?_of_expandTail {first : List Char} {rest groups : List (List Char)}
    (hrest : rest ≠ []) (h : expandTail (first :: rest) = some groups) :
    ∃ others, groups = first :: others := by
  unfold expandTail at h
  split at h
  · split at h
    · split at h
      · rw [List.dropLast_cons_of_ne_nil hrest, List.cons_append] at h
        exact ⟨_, (Option.some.inj h).symm⟩
      · cases h
    · exact ⟨_, (Option.some.inj h).symm⟩
  · exact ⟨_, (Option.some.inj h).symm⟩

/-- What stands before a gap are groups. -/
theorem sidesValid_cons_eq_false {first : List Char} (hne : first ≠ [])
    (hfirst : isGroup first = false) (before after : List (List Char)) :
    sidesValid (first :: before) after = false := by
  have hhead : (first :: before).head? ≠ some [] := by simpa using hne
  simp only [sidesValid, if_neg hhead, List.all_cons, hfirst, Bool.false_and, Bool.and_false]

/-- A gap is never in front of all groups. -/
theorem pos_of_mem_gaps {groups : List (List Char)} {i : Nat} (h : i ∈ gaps groups) : 0 < i := by
  have hcond := (List.mem_filter.mp h).2
  simp only [Bool.and_eq_true, decide_eq_true_eq] at hcond
  exact hcond.1.1

/-- An address in groups does not begin with a letter that is no digit. -/
theorem isV6Groups_eq_false {c : Char} (hcolon : c ≠ ':') (hhex : Unicode.hexDigit? c = none)
    (cs : List Char) : isV6Groups (c :: cs) = false := by
  obtain ⟨part, parts, hsplit⟩ := Text.exists_splitOn_cons hcolon cs
  have hfirst : isGroup (c :: part) = false := isGroup_cons_eq_false hhex part
  unfold isV6Groups
  rw [hsplit]
  dsimp only
  split
  · rfl
  · next hlength =>
    have hparts : parts ≠ [] := by
      rintro rfl
      exact hlength (by simp)
    split
    · rfl
    · next groups hexpand =>
      obtain ⟨others, rfl⟩ := head?_of_expandTail hparts hexpand
      split
      · rfl
      · split
        · simp [hfirst]
        · next i hgap =>
          have hmem : i ∈ gaps ((c :: part) :: others) := by
            rw [hgap]
            exact List.mem_singleton_self i
          obtain ⟨j, rfl⟩ := Nat.exists_eq_succ_of_ne_zero (pos_of_mem_gaps hmem).ne'
          rw [List.take_succ_cons]
          exact sidesValid_cons_eq_false (List.cons_ne_nil _ _) hfirst _ _
        · rfl

/-- An address in groups does not look like a name in another script. -/
theorem dropFront?_mark_of_isV6 {cs : List Char} (h : isV6 cs = true) :
    Text.dropFront? Hostname.mark cs = none := by
  rw [Option.eq_none_iff_forall_ne_some]
  intro rest hrest
  rw [Text.dropFront?_eq_some_iff] at hrest
  obtain ⟨tail, rfl⟩ : ∃ tail, cs = 'x' :: tail := ⟨_, hrest⟩
  have hgroups (ds : List Char) : isV6Groups ('x' :: ds) = false :=
    isV6Groups_eq_false (by decide) (by decide) ds
  unfold isV6 at h
  split at h
  · cases h
  · split at h
    · rw [hgroups] at h
      cases h
    · next addr zone hcut =>
      obtain ⟨c, hc, hsplit, -⟩ := Text.cut?_eq_some hcut
      cases addr with
      | nil =>
        obtain ⟨rfl, -⟩ := List.cons.inj hsplit
        cases hc
      | cons d ds =>
        obtain ⟨rfl, -⟩ := List.cons.inj hsplit
        rw [hgroups, Bool.and_false] at h
        cases h

end IpAddress

namespace Url
open Address

/-! ## Host and port -/

/-- What stands before the last at sign has no part in the host. -/
theorem splitAuthority_of_userinfo (userinfo : List Char) {rest : List Char} (hrest : '@' ∉ rest) :
    splitAuthority (userinfo ++ '@' :: rest) = (userinfo, (splitAuthority rest).2) := by
  have hno := Text.decide_eq_false_of_not_mem hrest
  have hcut : Text.cutLast? (· = '@') (userinfo ++ '@' :: rest) = some (userinfo, rest) :=
    Text.cutLast?_append hno (decide_eq_true rfl) userinfo
  have hnone : Text.cutLast? (· = '@') rest = none := Text.cutLast?_eq_none_iff.mpr hno
  simp only [splitAuthority, hcut, hnone]

theorem head?_ne_of_hostAdmits {cs : List Char} (hcs : ∀ c ∈ cs, hostAdmits c = true) :
    ¬ cs.head? = some '[' := fun hhead =>
  (of_hostAdmits (hcs '[' (List.mem_of_head? hhead))).2 (by decide)

/-- What follows the host in an address is empty, or a colon and the port. -/
theorem exists_format_eq_append (host : List Char) {port : Option (List Char)}
    (hport : IsPort port) :
    ∃ behind, format none host port [] = host ++ behind ∧
      (∀ c, behind.head? = some c → c = ':') ∧ ']' ∉ behind ∧
      (if behind.head? = some ':' then behind.drop 1 else behind) = port.getD [] := by
  cases port with
  | none => exact ⟨[], by simp [format], by simp, by simp, rfl⟩
  | some digits =>
    have hclose : ']' ∉ digits := fun hc => absurd ((hport digits rfl).2 ']' hc) (by decide)
    exact ⟨':' :: digits, by simp [format], by simp, by simp [hclose], rfl⟩

/-- A name is told apart from the port behind it, and nothing stands before it. -/
theorem splitAuthority_of_name {name : List Char} {port : Option (List Char)} (hat : '@' ∉ name)
    (hcolon : ':' ∉ name) (hopen : name.head? ≠ some '[') (hport : IsPort port) :
    splitAuthority (format none name port []) = ([], name, port.getD []) := by
  have hsign : '@' ∉ format none name port [] := by
    intro hc
    rcases mem_format hc with hc | hc | ⟨digits, hdigits, hc⟩
    · exact hat hc
    · exact absurd hc (by decide)
    · exact absurd (hport.of_mem hdigits hc).1 (by decide)
  have hnone : Text.cutLast? (· = '@') (format none name port []) = none :=
    Text.cutLast?_eq_none_iff.mpr (Text.decide_eq_false_of_not_mem hsign)
  obtain ⟨behind, htext, hbehind, -, hdrop⟩ := exists_format_eq_append name hport
  have hplain : ∀ c ∈ name, decide (c ≠ ':') = true := by
    intro c hc
    rw [decide_eq_true_iff]
    rintro rfl
    exact hcolon hc
  have hend : ∀ c, behind.head? = some c → decide (c ≠ ':') = false := fun c hc => by
    rw [hbehind c hc]
    rfl
  have hhead : ¬(name ++ behind).head? = some '[' := by
    cases name with
    | nil => exact fun hhead => absurd (hbehind '[' hhead) (by decide)
    | cons c cs => exact hopen
  unfold splitAuthority
  rw [hnone, htext]
  dsimp only
  rw [if_neg hhead]
  dsimp only
  rw [Text.takeWhile_append_of_head hplain hend, Text.dropWhile_append_of_head hplain hend, hdrop]

/-- Host and port are told apart, and nothing stands before them. -/
theorem splitAuthority_format {host : List Char} {port : Option (List Char)} (hhost : IsHost host)
    (hport : IsPort port) :
    splitAuthority (format none host port []) = ([], host, port.getD []) := by
  cases hhost with
  | name ne_nil admits =>
    have hsign {c : Char} (hc : c ∈ host) : c ∉ ":/?#@[]".toList := (of_hostAdmits (admits c hc)).2
    exact splitAuthority_of_name (fun hc => hsign hc (by decide)) (fun hc => hsign hc (by decide))
      (head?_ne_of_hostAdmits admits) hport
  | @bracketed cs plain =>
    have hat : '@' ∉ format none ('[' :: cs ++ [']']) port [] := fun hc =>
      (of_mem_format (.bracketed plain) hport hc).2 (by decide)
    have hnone : Text.cutLast? (· = '@') (format none ('[' :: cs ++ [']']) port []) = none :=
      Text.cutLast?_eq_none_iff.mpr (Text.decide_eq_false_of_not_mem hat)
    obtain ⟨behind, htext, -, hclose, hdrop⟩ := exists_format_eq_append ('[' :: cs ++ [']']) hport
    have hopen : ('[' :: cs ++ [']'] ++ behind).head? = some '[' := rfl
    have hcut : Text.cutLast? (· = ']') ('[' :: cs ++ [']'] ++ behind) =
        some ('[' :: cs, behind) := by
      rw [List.append_assoc]
      exact Text.cutLast?_append (Text.decide_eq_false_of_not_mem hclose) (decide_eq_true rfl) _
    unfold splitAuthority
    rw [hnone, htext]
    dsimp only
    rw [if_pos hopen, hcut]
    dsimp only
    rw [hdrop]

/-! ## The normal form of a host -/

/-- What looks like four numbers is in ASCII. -/
theorem toNat_lt_of_looksV4 {host : List Char} (h : looksV4 host = true) {c : Char}
    (hc : c ∈ host) : c.toNat < 128 := by
  rw [looksV4, Bool.and_eq_true, List.all_eq_true] at h
  rw [← Text.intercalate_splitOn '.' host] at hc
  rcases Text.mem_intercalate hc with hc | ⟨part, hpart, hc⟩
  · rw [List.mem_singleton.mp hc]
    decide
  · have hdigits := h.2 part hpart
    rw [Bool.and_eq_true, List.all_eq_true] at hdigits
    exact Unicode.toNat_lt_of_isDigit (hdigits.2 c hc)

/-- A name that is not in ASCII is put into ASCII. -/
theorem toAscii_of_normalHost {name host : List Char} (hopen : name.head? ≠ some '[')
    (hforeign : ∃ c ∈ name, 128 ≤ c.toNat) (h : normalHost name = .ok host) :
    Hostname.toAscii (Unicode.lower name) = .ok host := by
  obtain ⟨c, hc, hcode⟩ := hforeign
  have hnumbers : ¬looksV4 name = true := fun h => by
    have := toNat_lt_of_looksV4 h hc
    omega
  have hbracketed : ¬isBracketed name = true := by simp [isBracketed, hopen]
  have hascii : ¬Hostname.isAscii name = true := by
    rw [Hostname.isAscii, List.all_eq_true]
    intro hall
    have := of_decide_eq_true (hall c hc)
    omega
  unfold normalHost at h
  rw [if_neg (by simpa using List.ne_nil_of_mem hc), if_neg hnumbers, if_neg hbracketed,
    if_neg hascii] at h
  split at h
  · next name hname => rw [hname, Except.ok.inj h]
  · cases h

/-- Letters are put into lower case once. -/
theorem map_toLower_map_toLower {cs : List Char} (hcs : ∀ c ∈ cs, c.toNat < 128) :
    (cs.map Char.toLower).map Char.toLower = cs.map Char.toLower := by
  rw [List.map_map]
  refine List.map_congr_left fun c hc => ?_
  exact Char.forall_ascii (P := fun c => c.toLower.toLower = c.toLower) (by decide) (hcs c hc)

theorem looksV4_bracketed (cs : List Char) : looksV4 ('[' :: cs) = false := by
  obtain ⟨part, parts, hsplit⟩ := Text.exists_splitOn_cons (by decide : '[' ≠ '.') cs
  have hopen : ('[' :: part).all Char.isDigit = false := rfl
  unfold looksV4
  rw [hsplit]
  dsimp only
  rw [List.all_cons, hopen]
  simp

/-- A name is kept as it is, if it looks like an address in numbers, and else put into lower
case. -/
theorem normalHost_of_hostAdmits {host name : List Char} (hne : host ≠ [])
    (hadmits : ∀ c ∈ host, hostAdmits c = true) (h : normalHost host = .ok name) :
    name = host ∨ name = host.map Char.toLower := by
  have hlower : ∀ c ∈ host.map Char.toLower, hostAdmits c = true :=
    List.forall_mem_map.mpr fun c hc => hostAdmits_toLower (hadmits c hc)
  have hbracketed : isBracketed host = false := by
    rw [isBracketed, decide_eq_false (head?_ne_of_hostAdmits hadmits)]
    rfl
  have hall : Hostname.isAscii host = true := by
    simpa [Hostname.isAscii] using fun c hc => (of_hostAdmits (hadmits c hc)).1
  unfold normalHost at h
  rw [if_neg (by simpa using hne), hbracketed, if_neg Bool.false_ne_true, hall, if_pos rfl,
    Percent.escapeRest_eq_self hlower] at h
  split at h
  · split at h
    · exact Or.inl (Except.ok.inj h).symm
    · cases h
  · exact Or.inr (Except.ok.inj h).symm

/-- What stands in brackets is an address, and it is kept as it is. -/
theorem normalHost_of_brackets {cs name : List Char}
    (h : normalHost ('[' :: cs ++ [']']) = .ok name) : IpAddress.isV6 cs = true ∧ name = cs := by
  have hbracketed : isBracketed ('[' :: cs ++ [']']) = true := by
    rw [isBracketed, List.getLast?_concat]
    simp
  have hinside : (('[' :: cs ++ [']']).drop 1).dropLast = cs := by simp
  unfold normalHost at h
  rw [if_neg (by simp), List.cons_append, looksV4_bracketed, ← List.cons_append, hbracketed,
    if_neg Bool.false_ne_true, if_pos rfl, hinside] at h
  dsimp only at h
  split at h
  · next hv6 => exact ⟨hv6, (Except.ok.inj h).symm⟩
  · cases h

/-- A text that looks like a name in another script still does in lower case. -/
theorem dropFront?_mark_of_map_toLower {cs : List Char}
    (h : Text.dropFront? Hostname.mark (cs.map Char.toLower) = none) :
    Text.dropFront? Hostname.mark cs = none := by
  rw [Option.eq_none_iff_forall_ne_some] at h ⊢
  intro rest hrest
  rw [Text.dropFront?_eq_some_iff] at hrest
  apply h (rest.map Char.toLower)
  rw [Text.dropFront?_eq_some_iff, hrest, List.map_append]
  rfl

/-- The normal form of a host is the host without its brackets, but for the case of its
letters; and it is shown as it is, if it does not begin like a name in another script. -/
theorem normalHost_eq_ok {host name : List Char} (hhost : IsHost host)
    (h : normalHost host = .ok name) :
    name.map Char.toLower = stripBrackets (host.map Char.toLower) ∧
      (∀ c ∈ name, c.toNat < 128) ∧
      (Text.dropFront? Hostname.mark (host.map Char.toLower) = none →
        Text.dropFront? Hostname.mark name = none) := by
  have hascii : ∀ c ∈ host, c.toNat < 128 := fun c hc => (hhost.of_mem hc).1
  cases hhost with
  | name ne_nil admits =>
    have hlower : ∀ c ∈ host.map Char.toLower, hostAdmits c = true :=
      List.forall_mem_map.mpr fun c hc => hostAdmits_toLower (admits c hc)
    rw [stripBrackets_name hlower]
    rcases normalHost_of_hostAdmits ne_nil admits h with rfl | rfl
    · exact ⟨rfl, hascii, dropFront?_mark_of_map_toLower⟩
    · exact ⟨map_toLower_map_toLower hascii, fun c hc => (of_hostAdmits (hlower c hc)).1, id⟩
  | @bracketed cs plain =>
    obtain ⟨hv6, rfl⟩ := normalHost_of_brackets h
    have hstrip : stripBrackets (('[' :: name ++ [']']).map Char.toLower) =
        name.map Char.toLower := by
      rw [List.map_append, List.map_cons]
      exact stripBrackets_bracketed (List.forall_mem_map.mpr fun c hc => (plain c hc).toLower)
    exact ⟨hstrip.symm, fun c hc => (plain c hc).1, fun _ => IpAddress.dropFront?_mark_of_isV6 hv6⟩

/-! ## Taking a URL apart -/

/-- A scheme ends at the first colon. -/
theorem splitScheme_of_scheme {scheme : List Char} (hcolon : ':' ∉ scheme)
    (hscheme : ∀ c front, scheme = c :: front → c.isAlpha = true ∧ front.all isSchemeChar = true)
    (rest : List Char) :
    splitScheme (scheme ++ "://".toList ++ rest) = (scheme, '/' :: '/' :: rest) := by
  have htext : scheme ++ "://".toList ++ rest = scheme ++ ':' :: '/' :: '/' :: rest := by simp
  have hcut : Text.cut? (· = ':') (scheme ++ ':' :: '/' :: '/' :: rest) =
      some (scheme, '/' :: '/' :: rest) :=
    Text.cut?_append (Text.decide_eq_false_of_not_mem hcolon) (decide_eq_true rfl) _
  unfold splitScheme
  rw [htext, hcut]
  cases hs : scheme with
  | nil => rfl
  | cons c front =>
    obtain ⟨halpha, hall⟩ := hscheme c front hs
    simp [halpha, hall]

/-- A URL that is put together from parts is taken apart into them. -/
theorem splitText_of_parts {scheme authority path : List Char} (hcolon : ':' ∉ scheme)
    (hscheme : ∀ c front, scheme = c :: front → c.isAlpha = true ∧ front.all isSchemeChar = true)
    (hauthority : ∀ c ∈ authority, c ∉ "/?#".toList) (hpath : ∀ c ∈ path, c ∉ "?#".toList) :
    splitText (scheme ++ "://".toList ++ authority ++ '/' :: path) =
      ⟨scheme, authority, '/' :: path, none, none⟩ := by
  have hsplit := splitScheme_of_scheme hcolon hscheme (authority ++ '/' :: path)
  have hfirst : ∀ c ∈ authority, (c != '/' && (c != '?' && c != '#')) = true := by
    intro c hc
    simpa using hauthority c hc
  have hwhole : ∀ c ∈ '/' :: path, (c != '?' && c != '#') = true :=
    List.forall_mem_cons.mpr ⟨by decide, fun c hc => by simpa using hpath c hc⟩
  have hend : ∀ c, ('/' :: path).head? = some c → (c != '/' && (c != '?' && c != '#')) = false := by
    intro c hc
    rw [← Option.some.inj hc]
    rfl
  rw [List.append_assoc]
  simp only [splitText, hsplit, Text.takeWhile_append_of_head hfirst hend,
    Text.dropWhile_append_of_head hfirst hend, List.takeWhile_eq_self_iff.mpr hwhole,
    List.dropWhile_eq_nil_iff.mpr hwhole]

/-- A URL that is read has the host and the port of its authority, in normal form. -/
theorem parse_eq_ok {cs : List Char} {u : Url} (h : parse cs = .ok u) :
    let p := splitText cs
    normalHost (splitAuthority p.authority).2.1 = .ok u.host ∧
      normalPort p.scheme (splitAuthority p.authority).2.2 = .ok u.port ∧
      u.scheme = p.scheme.map Char.toLower := by
  intro p
  obtain ⟨-, -, h⟩ := Except.bind_eq_ok h
  obtain ⟨host, hhost, h⟩ := Except.bind_eq_ok h
  obtain ⟨port, hport, h⟩ := Except.bind_eq_ok h
  obtain ⟨-, -, h⟩ := Except.bind_eq_ok h
  rw [← Except.ok.inj h]
  exact ⟨hhost, hport, rfl⟩

end Url
end RegistryAuth
