import RegistryAuth.Address
import RegistryAuth.Proofs.Number.Length
import RegistryAuth.Proofs.Text.Cut

/-!
# How addresses are spelled

`Address.format` puts an address together, and `Address.parse` takes host and port out of it again
by signs alone: the mark of a scheme, a slash, the last colon, brackets.  It knows no grammar of
hosts, and needs none (`Address.parse_of_spelling`): what is read back is what was put together,
wherever the host is in ASCII and its colons stand in brackets.

* `Spells`: the two ways of writing a host, and the host that is meant.
* `Surrounds`: what may stand in front of host and port, and behind them.

## Why the last colon is enough

Behind the last colon of an address without a port there is nothing, if the host is a name; and in
brackets the closing one stands behind each colon, so that what follows is never all digits
(`Spells.all_isDigit_eq_false`).  A port holds no colon, so the last one is the one in front of it.
-/

namespace RegistryAuth
namespace Address

/-- `written` is how an address holds the host: a name as it is, without colons, or anything in
brackets.  Both are ASCII, and they hold no slash and no other brackets. -/
inductive Spells : List Char → List Char → Prop where
  | name {cs : List Char} (plain : ∀ c ∈ cs, c.toNat < 128 ∧ c ∉ ":/[]".toList) : Spells cs cs
  | bracketed {cs : List Char} (plain : ∀ c ∈ cs, c.toNat < 128 ∧ c ∉ "/[]".toList) :
      Spells ('[' :: cs ++ [']']) cs

/-- A port that is written in digits. -/
def IsPort (port : Option (List Char)) : Prop :=
  ∀ digits, port = some digits → digits ≠ [] ∧ ∀ c ∈ digits, c.isDigit = true

/-- What stands around host and port: in front a scheme that holds no mark of one, or none, and
behind a path that begins with a slash, or none.  If there is no scheme, the path holds no mark of
one. -/
structure Surrounds (scheme : Option (List Char)) (path : List Char) : Prop where
  scheme_plain : ∀ s, scheme = some s → Text.contains [':', '/', '/'] s = false
  path_head : ∀ c, path.head? = some c → c = '/'
  path_plain : scheme = none → Text.contains [':', '/', '/'] path = false

theorem IsPort.of_mem {port : Option (List Char)} (hport : IsPort port) {digits : List Char}
    (hdigits : port = some digits) {c : Char} (hc : c ∈ digits) :
    c.isDigit = true ∧ c.toNat < 128 := by
  have hdigit := (hport digits hdigits).2 c hc
  exact ⟨hdigit, Unicode.toNat_lt_of_isDigit hdigit⟩

/-- Host and port are written one behind the other, with a colon between them. -/
theorem mem_format {host : List Char} {port : Option (List Char)} {c : Char}
    (hc : c ∈ format none host port []) :
    c ∈ host ∨ c = ':' ∨ ∃ digits, port = some digits ∧ c ∈ digits := by
  cases port with
  | none => exact .inl (by simpa [format] using hc)
  | some digits => simpa [format] using hc

/-! ## Hosts -/

theorem map_toLower_bracketed (cs : List Char) :
    ('[' :: cs ++ [']']).map Char.toLower = '[' :: cs.map Char.toLower ++ [']'] := by
  rw [List.map_append, List.map_cons]
  rfl

theorem mem_bracketed {cs : List Char} {c : Char} (hc : c ∈ '[' :: cs ++ [']']) :
    c = '[' ∨ c ∈ cs ∨ c = ']' := by
  simpa using hc

/-- A character that is none of some signs, brackets among them, is no bracket. -/
theorem bracket_eq_false {c : Char} {signs : List Char} (hopen : '[' ∈ signs) (hclose : ']' ∈ signs)
    (hc : c ∉ signs) : (c = '[' || c = ']') = false := by
  rw [Bool.or_eq_false_iff, decide_eq_false_iff_not, decide_eq_false_iff_not]
  exact ⟨fun h => hc (h ▸ hopen), fun h => hc (h ▸ hclose)⟩

/-- Digits behind a colon are the port, if no second colon stands before it. -/
theorem parseChars_of_port {addr written digits : List Char}
    (hlast : written.getLast? ≠ some ':') (hne : digits ≠ [])
    (hdigits : ∀ c ∈ digits, c.isDigit = true)
    (hauthority : authority addr = written ++ ':' :: digits) :
    parseChars addr = (Number.whole 10 digits).map fun n =>
      ⟨String.ofList (stripBrackets written), some n.toNat⟩ := by
  have hcolon : ':' ∉ digits := fun hc => absurd (hdigits ':' hc) (by decide)
  have hcut : Text.cutLast? (· = ':') (written ++ ':' :: digits) = some (written, digits) :=
    Text.cutLast?_append (Text.decide_eq_false_of_not_mem hcolon) (decide_eq_true rfl) written
  have hall : digits.all Unicode.isDigit = true := by
    rw [List.all_eq_true]
    intro c hc
    rw [Unicode.isDigit, if_pos (Unicode.toNat_lt_of_isDigit (hdigits c hc)), hdigits c hc]
  have hbehind : (written.getLast? != some ':') = true := bne_iff_ne.mpr hlast
  have hempty : (!digits.isEmpty) = true := by simpa using hne
  unfold parseChars
  rw [hauthority]
  dsimp only
  rw [hcut]
  dsimp only
  rw [hempty, hall, hbehind]
  cases Number.whole 10 digits <;> rfl

namespace Spells

variable {written host : List Char}

theorem of_mem (h : Spells written host) {c : Char} (hc : c ∈ written) :
    c.toNat < 128 ∧ c ≠ '/' := by
  cases h with
  | name plain =>
    refine ⟨(plain c hc).1, ?_⟩
    rintro rfl
    exact (plain '/' hc).2 (by decide)
  | bracketed plain =>
    rcases mem_bracketed hc with rfl | hc | rfl
    · decide
    · refine ⟨(plain c hc).1, ?_⟩
      rintro rfl
      exact (plain '/' hc).2 (by decide)
    · decide

/-- In lower case a host is spelled in the same way: no sign is a letter. -/
theorem lower (h : Spells written host) :
    Spells (written.map Char.toLower) (host.map Char.toLower) := by
  have hsigns {signs : List Char} (hsigns : ∀ n < 128, Char.ofNat n ∉ signs →
      (Char.ofNat n).toLower ∉ signs) {c : Char} (hc : c.toNat < 128 ∧ c ∉ signs) :
      c.toLower.toNat < 128 ∧ c.toLower ∉ signs :=
    ⟨Char.toNat_toLower_lt hc.1,
      Char.forall_ascii (P := fun c => c ∉ signs → c.toLower ∉ signs) hsigns hc.1 hc.2⟩
  cases h with
  | name plain => exact .name (List.forall_mem_map.mpr fun c hc => hsigns (by decide) (plain c hc))
  | bracketed plain =>
    rw [map_toLower_bracketed]
    exact .bracketed (List.forall_mem_map.mpr fun c hc => hsigns (by decide) (plain c hc))

/-- The brackets fall away, and nothing else does. -/
theorem stripBrackets_eq (h : Spells written host) : stripBrackets written = host := by
  cases h with
  | name plain =>
    have hplain : ∀ c ∈ written, (c = '[' || c = ']') = false := fun c hc =>
      bracket_eq_false (by decide) (by decide) (plain c hc).2
    exact Text.trimBoth_eq_self (fun c hc => hplain c (List.mem_of_head? hc)) fun c hc =>
      hplain c (List.mem_of_getLast? hc)
  | bracketed plain =>
    have hbracket (b : Char) (hb : b = '[' ∨ b = ']') :
        ∀ c ∈ [b], (c = '[' || c = ']') = true := by simpa using hb
    exact Text.trimBoth_append (hbracket _ (.inl rfl)) (hbracket _ (.inr rfl)) fun c hc =>
      bracket_eq_false (by decide) (by decide) (plain c hc).2

/-- No host ends in a colon. -/
theorem getLast?_ne (h : Spells written host) : written.getLast? ≠ some ':' := by
  cases h with
  | name plain =>
    intro hlast
    exact (plain ':' (List.mem_of_getLast? hlast)).2 (by decide)
  | bracketed _ =>
    rw [List.getLast?_concat]
    decide

/-- The end of a host is not taken for a port. -/
theorem all_isDigit_eq_false (h : Spells written host) {front port : List Char}
    (hcut : Text.cutLast? (· = ':') written = some (front, port)) :
    port.all Unicode.isDigit = false := by
  obtain ⟨c, hc, rfl, -⟩ := Text.cutLast?_eq_some hcut
  obtain rfl : c = ':' := by simpa using hc
  generalize hwritten : front ++ ':' :: port = written at h
  cases h with
  | name plain =>
    have hmem : ':' ∈ host := by rw [← hwritten]; simp
    exact absurd (by decide) (plain ':' hmem).2
  | bracketed plain =>
    -- the bracket that closes the host stands behind each colon
    have hlast : port.getLast? = some ']' := by
      have h := congrArg List.getLast? hwritten
      rw [List.getLast?_concat, List.getLast?_append] at h
      cases port with
      | nil => simp at h
      | cons d ds => simpa [List.getLast?_cons] using h
    rw [List.all_eq_false]
    exact ⟨']', List.mem_of_getLast? hlast, by decide⟩

/-! ## Host and port -/

variable {addr : List Char}

theorem parseChars_of_host (h : Spells written host) (hauthority : authority addr = written) :
    parseChars addr = .ok ⟨String.ofList host, none⟩ := by
  unfold parseChars
  rw [hauthority]
  dsimp only
  rw [h.stripBrackets_eq]
  split
  · rfl
  · next front port hcut =>
    rw [h.all_isDigit_eq_false hcut, Bool.and_false, Bool.false_and]
    rfl

theorem parseChars_of_host_and_port (h : Spells written host) {digits : List Char}
    (hne : digits ≠ []) (hdigits : ∀ c ∈ digits, c.isDigit = true)
    (hauthority : authority addr = written ++ ':' :: digits) :
    parseChars addr =
      (Number.whole 10 digits).map fun n => ⟨String.ofList host, some n.toNat⟩ := by
  rw [parseChars_of_port h.getLast?_ne hne hdigits hauthority, h.stripBrackets_eq]

variable {port : Option (List Char)}

/-- What is written of an address is ASCII, and no path begins in it. -/
theorem of_mem_format (h : Spells written host) (hport : IsPort port) {c : Char}
    (hc : c ∈ format none written port []) : c.toNat < 128 ∧ c ≠ '/' := by
  rcases mem_format hc with hc | rfl | ⟨digits, hdigits, hc⟩
  · exact h.of_mem hc
  · decide
  · obtain ⟨hdigit, hascii⟩ := hport.of_mem hdigits hc
    refine ⟨hascii, ?_⟩
    rintro rfl
    exact absurd hdigit (by decide)

/-- No host and no port ends in a colon. -/
theorem getLast?_format_ne (h : Spells written host) (hport : IsPort port) :
    (format none written port []).getLast? ≠ some ':' := by
  cases port with
  | none => simpa [format] using h.getLast?_ne
  | some digits =>
    obtain ⟨hne, hdigits⟩ := hport digits rfl
    intro hlast
    have hmem : ':' ∈ digits := by
      rw [format, List.append_nil, List.nil_append, List.getLast?_append_of_ne_nil _ (by simp),
        List.getLast?_cons_of_ne_nil hne] at hlast
      exact List.mem_of_getLast? hlast
    exact absurd (hdigits ':' hmem) (by decide)

/-- A host and a port in lower case. -/
theorem lower_format (h : Spells written host) (hport : IsPort port) :
    Unicode.lower (format none written port []) =
      format none (written.map Char.toLower) port [] := by
  rw [Unicode.lower_eq_map_toLower fun c hc => (h.of_mem_format hport hc).1]
  cases port with
  | none => simp [format]
  | some digits =>
    have hdigits : digits.map Char.toLower = digits := by
      refine (List.map_congr_left fun c hc => ?_).trans (List.map_id digits)
      obtain ⟨hdigit, hascii⟩ := hport.of_mem rfl hc
      exact Char.forall_ascii (P := fun c => c.isDigit = true → c.toLower = c) (by decide) hascii
        hdigit
    simp [format, hdigits]

end Spells

/-! ## What stands around them -/

/-- What stands behind the scheme is read up to its first slash. -/
theorem authority_of_front {addr front path : List Char} (hslash : '/' ∉ front)
    (hpath : ∀ c, path.head? = some c → c = '/')
    (hscheme : (∃ s, Text.cutText? [':', '/', '/'] addr = some (s, front ++ path)) ∨
      addr = front ++ path ∧ Text.cutText? [':', '/', '/'] addr = none) :
    authority addr = Unicode.lower front := by
  have hplain := Text.decide_eq_false_of_not_mem hslash
  cases path with
  | nil =>
    have hcut := Text.cut?_eq_none_iff.mpr hplain
    rw [List.append_nil] at hscheme
    rcases hscheme with ⟨s, hscheme⟩ | ⟨rfl, hscheme⟩ <;> simp only [authority, hscheme, hcut]
  | cons c rest =>
    obtain rfl := hpath c rfl
    have hcut := Text.cut?_append hplain (decide_eq_true rfl) rest
    rcases hscheme with ⟨s, hscheme⟩ | ⟨rfl, hscheme⟩ <;> simp only [authority, hscheme, hcut]

/-- Without a slash there is neither a scheme nor a path. -/
theorem authority_eq_lower {cs : List Char} (hslash : '/' ∉ cs) :
    authority cs = Unicode.lower cs := by
  have hpath : ∀ c, ([] : List Char).head? = some c → c = '/' := nofun
  exact authority_of_front hslash hpath
    (.inr ⟨(List.append_nil cs).symm, Text.cutText?_eq_none (by simp) hslash⟩)

/-- No mark of a scheme begins in front of a path, where there is no slash and no colon at the
end. -/
theorem cutText?_append_eq_none {front path : List Char} (hslash : '/' ∉ front)
    (hlast : front.getLast? ≠ some ':') (hpath : Text.cutText? [':', '/', '/'] path = none) :
    Text.cutText? [':', '/', '/'] (front ++ path) = none := by
  induction front with
  | nil => exact hpath
  | cons c front ih =>
    have hrest : '/' ∉ front := fun h => hslash (List.mem_cons_of_mem c h)
    have hback : front.getLast? ≠ some ':' := by
      cases front with
      | nil => simp
      | cons d ds => simpa [List.getLast?_cons] using hlast
    have hdrop : Text.dropFront? [':', '/', '/'] (c :: (front ++ path)) = none := by
      rw [Option.eq_none_iff_forall_ne_some]
      intro rest hsome
      obtain ⟨rfl, hslashes⟩ := List.cons.inj (Text.dropFront?_eq_some_iff.mp hsome)
      cases front with
      | nil => exact hlast rfl
      | cons d ds =>
        obtain ⟨rfl, -⟩ := List.cons.inj hslashes
        exact hrest List.mem_cons_self
    rw [List.cons_append, Text.cutText?, hdrop, ih hrest hback]
    rfl

/-- What stands in front of host and port, and what stands behind them. -/
theorem format_eq (scheme : Option (List Char)) (host : List Char) (port : Option (List Char))
    (path : List Char) :
    format scheme host port path =
      (match scheme with
        | some s => s ++ [':', '/', '/']
        | none => []) ++ (format none host port [] ++ path) := by
  cases scheme <;> simp [format]

section Format

variable {scheme port : Option (List Char)} {written host path : List Char}

/-- Host and port of an address are read in lower case, whatever stands around them. -/
theorem authority_format (haround : Surrounds scheme path) (hhost : Spells written host)
    (hport : IsPort port) :
    authority (format scheme written port path) =
      format none (written.map Char.toLower) port [] := by
  have hslash : '/' ∉ format none written port [] := fun hc =>
    (hhost.of_mem_format hport hc).2 rfl
  rw [format_eq, ← hhost.lower_format hport]
  refine authority_of_front hslash haround.path_head ?_
  cases scheme with
  | some s =>
    refine .inl ⟨s, ?_⟩
    rw [List.append_assoc]
    exact Text.cutText?_append (by decide) (haround.scheme_plain s rfl) _
  | none =>
    have hnone := cutText?_append_eq_none hslash (hhost.getLast?_format_ne hport)
      (Text.cutText?_eq_none_iff.mpr (haround.path_plain rfl))
    exact .inr ⟨rfl, hnone⟩

/-- An address is read as its host in lower case, without brackets, and the number of its port, if
that can be read. -/
theorem parseChars_format_of_spells (haround : Surrounds scheme path) (hhost : Spells written host)
    (hport : IsPort port) :
    parseChars (format scheme written port path) =
      match port with
      | none => .ok ⟨String.ofList (host.map Char.toLower), none⟩
      | some digits => (Number.whole 10 digits).map fun n =>
          ⟨String.ofList (host.map Char.toLower), some n.toNat⟩ := by
  have hauthority := authority_format haround hhost hport
  cases port with
  | none =>
    simp only [format, List.nil_append, List.append_nil] at hauthority ⊢
    exact hhost.lower.parseChars_of_host hauthority
  | some digits =>
    obtain ⟨hne, hdigits⟩ := hport digits rfl
    simp only [format, List.nil_append, List.append_nil] at hauthority ⊢
    exact hhost.lower.parseChars_of_host_and_port hne hdigits hauthority

/-- **An address is read as what it was put together from.**  Whatever scheme stands in front and
whatever path behind, and in whatever case it is written: the host is the one that is meant, in
lower case, and the port is the number of its digits, if there is a port. -/
theorem parse_of_spelling (haround : Surrounds scheme path) (hhost : Spells written host)
    (hport : IsPort port)
    (hlength : ∀ digits, port = some digits → digits.length ≤ Number.maxDigits) :
    parse (String.ofList (format scheme written port path)) =
      .ok ⟨String.ofList (host.map Char.toLower), port.map Number.ofDigits⟩ := by
  rw [parse, String.toList_ofList, parseChars_format_of_spells haround hhost hport]
  cases port with
  | none => rfl
  | some digits =>
    obtain ⟨hne, hdigits⟩ := hport digits rfl
    dsimp only
    rw [Number.whole_eq_ofDigits hdigits hne, if_neg (Nat.not_lt.mpr (hlength digits rfl))]
    rfl

end Format

/-- A scheme with a colon and a slash in it, an address of a machine in upper case that ends in a
group of digits, a port with a needless zero, and a path that holds the mark of a scheme. -/
theorem parse_of_spelling_of_machine :
    let scheme := some "x:/y".toList
    let path := "/v2/https://lib".toList
    let port := some "05000".toList
    Surrounds scheme path ∧ Spells "[FE80::5]".toList "FE80::5".toList ∧ IsPort port ∧
      (∀ digits, port = some digits → digits.length ≤ Number.maxDigits) ∧
      parse "x:/y://[FE80::5]:05000/v2/https://lib" = .ok ⟨"fe80::5", some 5000⟩ := by
  intro scheme path port
  have haround : Surrounds scheme path :=
    ⟨fun s hs => by rw [← Option.some.inj hs]; decide, fun c hc => (Option.some.inj hc).symm, nofun⟩
  have hplain : ∀ c ∈ "FE80::5".toList, c.toNat < 128 ∧ c ∉ "/[]".toList :=
    List.all_iff_forall_prop.mp (by decide)
  have hhost : Spells "[FE80::5]".toList "FE80::5".toList := .bracketed hplain
  have hport : IsPort port := by
    intro digits hdigits
    rw [← Option.some.inj hdigits]
    exact ⟨by decide, List.all_iff_forall_prop.mp (by decide)⟩
  have hlength : ∀ digits, port = some digits → digits.length ≤ Number.maxDigits := by
    intro digits hdigits
    rw [← Option.some.inj hdigits]
    decide
  have htext : String.ofList (format scheme "[FE80::5]".toList port path) =
      "x:/y://[FE80::5]:05000/v2/https://lib" := by decide +kernel
  have hread := parse_of_spelling haround hhost hport hlength
  rw [htext] at hread
  have hname : String.ofList ("FE80::5".toList.map Char.toLower) = "fe80::5" := by decide +kernel
  have hnumber : port.map Number.ofDigits = some 5000 := by decide +kernel
  rw [hname, hnumber] at hread
  exact ⟨haround, hhost, hport, hlength, hread⟩

end Address
end RegistryAuth
