import RegistryAuth.Proofs.Unicode.Lowered
import RegistryAuth.Proofs.Url.Hostname
import RegistryAuth.Proofs.Url.Punycode

/-!
# Names in other scripts, there and back

A host in another script goes out in its ASCII form and is shown in its script again.  Label by
label nothing is lost (`Hostname.labelToUnicode_form`), but a name may still be shown in another way
than it was written:

* a host is read as a form only if its first label is one, so `registry.bücher.example` is shown as
  `registry.xn--bcher-kva.example`;
* dots of other scripts become full stops, so `bücher。example` is shown as `bücher.example`;
* a label that was a form from the start is shown in its script, so `bücher.xn--bcher-kva.example`
  is shown as `bücher.bücher.example`.

There is no fourth way (`Url.shownHost_of_toAscii`): a name in lower case is shown as it was written
exactly if it is as `Hostname.ShowsItself` says.  That a form among the labels is never made up for
by what `Unicode.lower` does to the rest is seen by counting the characters beyond ASCII: a form is
shown with more of them than it holds, and no label is shown with less
(`Hostname.Shows.foreignCount_le`).
-/

namespace RegistryAuth
namespace Hostname
open Unicode

/-! ## Labels -/

/-- What a label is shown as: itself, unless it is the ASCII form of a label in another script. -/
structure Shows (label shown : List Char) : Prop where
  kelvin_not_mem : kelvin ∉ shown
  isDot_eq_false : ∀ c ∈ shown, isDot c = false
  same : Text.dropFront? mark label = none → shown = label
  decoded : Text.dropFront? mark label ≠ none →
    (∀ c ∈ label, c.toNat < 128) ∧ ∃ c ∈ shown, 128 ≤ c.toNat

theorem isAscii_iff {cs : List Char} : isAscii cs = true ↔ ∀ c ∈ cs, c.toNat < 128 := by
  simp [isAscii]

/-- A label in ASCII is its own form. -/
theorem labelToAscii_of_ascii {label form : List Char} (hascii : isAscii label = true)
    (h : labelToAscii label = .ok form) :
    form = label ∧ ∃ shown, labelToUnicode label = .ok shown := by
  unfold labelToAscii at h
  obtain ⟨-, h⟩ := Except.guard_eq_ok h
  rw [if_pos hascii] at h
  obtain ⟨shown, hshown, h⟩ := Except.bind_eq_ok h
  obtain ⟨-, h⟩ := Except.guard_eq_ok h
  exact ⟨(Except.ok.inj h).symm, shown, hshown⟩

/-- The form of a label in another script. -/
theorem labelToAscii_of_foreign {label form : List Char} (hforeign : isAscii label = false)
    (h : labelToAscii label = .ok form) :
    checkLabel label = .ok () ∧ form = mark ++ Punycode.encode label ∧ form.length ≤ maxLabel := by
  unfold labelToAscii at h
  obtain ⟨-, h⟩ := Except.guard_eq_ok h
  rw [hforeign, if_neg Bool.false_ne_true] at h
  obtain ⟨⟨⟩, hcheck, h⟩ := Except.bind_eq_ok h
  obtain ⟨hlength, h⟩ := Except.guard_eq_ok h
  obtain rfl := Except.ok.inj h
  exact ⟨hcheck, rfl, Nat.not_lt.mp hlength⟩

theorem toLower_of_isLower {c : Char} (hc : IsLower c) (hascii : c.toNat < 128) :
    c.toLower = c := by
  have hlower := hc [] []
  rw [lowerChar, if_pos hascii] at hlower
  exact (List.cons.inj hlower).1

/-- The form of a label in lower case is in ASCII, in lower case, and without a dot. -/
theorem of_mem_form {label : List Char} (hlower : ∀ c ∈ label, IsLower c) (hdot : '.' ∉ label)
    {c : Char} (hc : c ∈ mark ++ Punycode.encode label) :
    c.toNat < 128 ∧ c.toLower = c ∧ c ≠ '.' := by
  have hmark : ∀ c ∈ mark, c.toNat < 128 ∧ c.toLower = c ∧ c ≠ '.' :=
    List.all_iff_forall_prop.mp (by decide)
  rcases List.mem_append.mp hc with hc | hc
  · exact hmark c hc
  · rcases Punycode.of_mem_encode hc with ⟨hc, hascii⟩ | rfl | hc
    · exact ⟨hascii, toLower_of_isLower (hlower c hc) hascii, fun heq => hdot (heq ▸ hc)⟩
    · decide
    · obtain ⟨hascii, hstays, hsign⟩ := hc.plain
      refine ⟨hascii, hstays, ?_⟩
      rintro rfl
      exact hsign (by decide)

/-- The form of a label in another script is read as the label. -/
theorem labelToUnicode_form {label : List Char} (hlower : ∀ c ∈ label, IsLower c)
    (hdot : '.' ∉ label) (hforeign : isAscii label = false) (hcheck : checkLabel label = .ok ())
    (hlength : (mark ++ Punycode.encode label).length ≤ maxLabel) :
    labelToUnicode (mark ++ Punycode.encode label) = .ok label := by
  have hform {c : Char} (hc : c ∈ mark ++ Punycode.encode label) := of_mem_form hlower hdot hc
  have hascii : isAscii (mark ++ Punycode.encode label) = true :=
    isAscii_iff.mpr fun c hc => (hform hc).1
  have hstays : (mark ++ Punycode.encode label).map Char.toLower = mark ++ Punycode.encode label :=
    (List.map_congr_left fun c hc => (hform hc).2.1).trans (List.map_id _)
  obtain ⟨c, hc, hcode⟩ := exists_foreign_of_isAscii hforeign
  obtain ⟨d, hlast, hdigit⟩ := Punycode.getLast?_encode hc hcode
  have hne : Punycode.encode label ≠ [] := by
    rintro hnil
    rw [hnil] at hlast
    cases hlast
  have hhyphen : ¬(Punycode.encode label).getLast? = some '-' := by
    rw [hlast, Option.some_inj]
    rintro rfl
    exact hdigit.plain.2.2 (by decide)
  have hshort : ¬maxInput < (mark ++ Punycode.encode label).length := by
    have hle : maxLabel ≤ maxInput := by decide
    omega
  have hdrop : Text.dropFront? mark (mark ++ Punycode.encode label) =
      some (Punycode.encode label) :=
    Text.dropFront?_eq_some_iff.mpr rfl
  rw [checkLabel] at hcheck
  unfold labelToUnicode
  dsimp only
  rw [hascii, hstays, hdrop]
  simp only [if_neg hshort, Bool.not_true, Bool.false_eq_true, if_false, List.isEmpty_iff,
    if_neg hne, if_neg hhyphen, Punycode.decode?_encode, hcheck, map_charOf_map_toNat, ne_eq,
    not_true_eq_false]
  rfl

theorem map_toLower_of_isLower {cs : List Char} (hlower : ∀ c ∈ cs, IsLower c)
    (hascii : ∀ c ∈ cs, c.toNat < 128) : cs.map Char.toLower = cs :=
  (List.map_congr_left fun c hc => toLower_of_isLower (hlower c hc) (hascii c hc)).trans
    (List.map_id cs)

/-- No label in another script looks like a form. -/
theorem dropFront?_mark_of_checkLabel {label : List Char} (h : checkLabel label = .ok ()) :
    Text.dropFront? mark label = none := by
  obtain ⟨hhyphens, -⟩ := checkCodes_eq_ok h
  rw [map_charOf_map_toNat] at hhyphens
  refine Option.eq_none_iff_forall_ne_some.mpr fun rest hrest => hhyphens ?_
  rw [Text.dropFront?_eq_some_iff.mp hrest]
  rfl

section Label

variable {label form : List Char} (hlower : ∀ c ∈ label, IsLower c) (hdot : '.' ∉ label)
include hlower

/-- What a label in ASCII is read as is what it is shown as. -/
theorem shows_of_labelToUnicode (hascii : isAscii label = true) {shown : List Char}
    (h : labelToUnicode label = .ok shown) : Shows label shown := by
  have hchars := isAscii_iff.mp hascii
  have hstays := map_toLower_of_isLower hlower hchars
  obtain ⟨codes, hcheck, hcodes⟩ := exists_codes_of_labelToUnicode h
  refine ⟨fun hmem => ne_kelvin_of_checkCodes hcheck (hcodes ▸ hmem) rfl,
    fun c hc => isDot_eq_false_of_checkCodes hcheck (hcodes ▸ hc), fun hnone => ?_, fun hmark => ?_⟩
  · rcases labelToUnicode_cases h with ⟨hforeign, -⟩ | ⟨-, -, heq⟩ | ⟨form, -, hform, -⟩
    · rw [hascii] at hforeign
      cases hforeign
    · rw [heq, hstays]
    · rw [hstays, hnone] at hform
      cases hform
  · obtain ⟨rest, hrest⟩ := Option.ne_none_iff_exists'.mp hmark
    rw [Text.dropFront?_eq_some_iff.mp hrest] at h
    obtain ⟨c, hc, hforeign, -⟩ := exists_foreign_of_labelToUnicode h
    exact ⟨hchars, c, hc, hforeign⟩

include hdot

/-- A label is shown from its form. -/
theorem exists_shows_of_labelToAscii (h : labelToAscii label = .ok form) :
    ∃ shown, labelToUnicode form = .ok shown ∧ Shows label shown := by
  cases hascii : isAscii label with
  | true =>
    obtain ⟨rfl, shown, hshown⟩ := labelToAscii_of_ascii hascii h
    exact ⟨shown, hshown, shows_of_labelToUnicode hlower hascii hshown⟩
  | false =>
    obtain ⟨hcheck, rfl, hlength⟩ := labelToAscii_of_foreign hascii h
    have hunmarked := dropFront?_mark_of_checkLabel hcheck
    have hmem {c : Char} (hc : c ∈ label) : c ∈ (label.map Char.toNat).map charOf := by
      rwa [map_charOf_map_toNat]
    exact ⟨label, labelToUnicode_form hlower hdot hascii hcheck hlength, {
      kelvin_not_mem := fun hc => ne_kelvin_of_checkCodes hcheck (hmem hc) rfl
      isDot_eq_false := fun c hc => isDot_eq_false_of_checkCodes hcheck (hmem hc)
      same := fun _ => rfl
      decoded := fun hmark => absurd hunmarked hmark }⟩

/-- The form of a label is a label in ASCII. -/
theorem form_spec (h : labelToAscii label = .ok form) :
    form ≠ [] ∧ ∀ c ∈ form, c.toNat < 128 ∧ c ≠ '.' := by
  cases hascii : isAscii label with
  | true =>
    obtain ⟨rfl, -⟩ := labelToAscii_of_ascii hascii h
    refine ⟨?_, fun c hc => ⟨isAscii_iff.mp hascii c hc, fun heq => hdot (heq ▸ hc)⟩⟩
    rintro rfl
    cases h
  | false =>
    obtain ⟨-, rfl, -⟩ := labelToAscii_of_foreign hascii h
    refine ⟨List.append_ne_nil_of_left_ne_nil (List.cons_ne_nil _ _) _, fun c hc => ?_⟩
    obtain ⟨hascii, -, hdot⟩ := of_mem_form hlower hdot hc
    exact ⟨hascii, hdot⟩

end Label

/-! ## Names -/

/-- A name that is put together from labels, with a dot at its end or without. -/
def join (parts : List (List Char)) (dotted : Bool) : List Char :=
  List.intercalate ['.'] (parts ++ if dotted then [[]] else [])

theorem of_mem_join {parts : List (List Char)} {dotted : Bool} {c : Char}
    (hc : c ∈ join parts dotted) : c = '.' ∨ ∃ part ∈ parts, c ∈ part := by
  rcases Text.mem_intercalate hc with hc | ⟨part, hpart, hc⟩
  · exact .inl (List.mem_singleton.mp hc)
  · rcases List.mem_append.mp hpart with hpart | hpart
    · exact .inr ⟨part, hpart, hc⟩
    · have hnil : part = [] := by
        split at hpart
        · exact List.mem_singleton.mp hpart
        · cases hpart
      rw [hnil] at hc
      cases hc

/-- A name in which all dots are full stops. -/
def plainDots (cs : List Char) : List Char := cs.map fun c => if isDot c then '.' else c

theorem isDot_eq_false_of_ascii {c : Char} (hascii : c.toNat < 128) (hdot : c ≠ '.') :
    isDot c = false := by
  simp only [isDot, Bool.or_eq_false_iff, decide_eq_false_iff_not]
  exact ⟨⟨⟨hdot, by omega⟩, by omega⟩, by omega⟩

theorem plainDots_eq_self_iff {cs : List Char} :
    plainDots cs = cs ↔ ∀ c ∈ cs, isDot c = true → c = '.' := by
  conv_lhs => rw [plainDots]; rhs; rw [← List.map_id cs]
  rw [List.map_inj_left]
  refine forall₂_congr fun c _ => ?_
  split
  · next hc => simp [hc, eq_comm]
  · next hc => simp [hc]

/-- The labels of a name, put together, are the name, but for dots of other scripts. -/
theorem join_labels (cs : List Char) : join (labels cs).1 (labels cs).2 = plainDots cs := by
  have hjoin := Text.intercalate_splitOn '.' (plainDots cs)
  rw [labels, ← plainDots, join]
  split
  · next hdotted =>
    rw [if_pos rfl, List.dropLast_append_getLast? [] hdotted, hjoin]
  · rw [if_neg Bool.false_ne_true, List.append_nil, hjoin]

/-- A name that is put together from labels has these labels. -/
theorem labels_join {parts : List (List Char)} (hne : parts ≠ [])
    (hparts : ∀ part ∈ parts, part ≠ [] ∧ ∀ c ∈ part, isDot c = false) (dotted : Bool) :
    labels (join parts dotted) = (parts, dotted) := by
  have hplain : plainDots (join parts dotted) = join parts dotted := by
    refine plainDots_eq_self_iff.mpr fun c hc hisDot => ?_
    rcases of_mem_join hc with hc | ⟨part, hpart, hc⟩
    · exact hc
    · rw [(hparts part hpart).2 c hc] at hisDot
      cases hisDot
  have hdot : ∀ part ∈ parts ++ (if dotted then [[]] else []), '.' ∉ part := by
    intro part hpart hmem
    rcases List.mem_append.mp hpart with hpart | hpart
    · exact absurd ((hparts part hpart).2 '.' hmem) (by decide)
    · cases dotted with
      | true =>
        rw [List.mem_singleton.mp hpart] at hmem
        cases hmem
      | false => cases hpart
  have hsplit : Text.splitOn '.' (join parts dotted) = parts ++ if dotted then [[]] else [] :=
    Text.splitOn_intercalate (List.append_ne_nil_of_left_ne_nil hne _) hdot
  rw [labels, ← plainDots, hplain, hsplit]
  cases dotted with
  | true => rw [if_pos rfl, if_pos List.getLast?_concat, List.dropLast_concat]
  | false =>
    have hlast : ¬parts.getLast? = some [] := fun hlast =>
      (hparts [] (List.mem_of_getLast? hlast)).1 rfl
    rw [if_neg Bool.false_ne_true, List.append_nil, if_neg hlast]

/-- The labels of a name hold characters of the name, and no dots. -/
theorem of_mem_labels {cs label : List Char} (hlabel : label ∈ (labels cs).1) {c : Char}
    (hc : c ∈ label) : c ∈ cs ∧ isDot c = false := by
  have hpart : label ∈ Text.splitOn '.' (plainDots cs) := by
    rw [labels, ← plainDots] at hlabel
    split at hlabel
    · exact List.mem_of_mem_dropLast hlabel
    · exact hlabel
  obtain ⟨d, hd, heq⟩ := List.mem_map.mp (Text.mem_of_mem_splitOn hpart hc)
  split at heq
  · subst heq
    exact absurd hc (Text.not_mem_of_mem_splitOn hpart)
  · next hdot =>
    subst heq
    exact ⟨hd, by simpa using hdot⟩

theorem labels_ne_nil {cs : List Char} (hne : cs ≠ []) : (labels cs).1 ≠ [] := by
  intro hnil
  have hjoin := join_labels cs
  have hempty : join [] (labels cs).2 = [] := by cases (labels cs).2 <;> rfl
  rw [hnil, hempty] at hjoin
  exact hne (List.map_eq_nil_iff.mp hjoin.symm)

/-- A name is changed label by label. -/
theorem changeLabels_eq_ok {change : List Char → Except HostnameError (List Char)}
    {cs name : List Char} {dotted : Bool} (h : changeLabels change cs = .ok (name, dotted)) :
    cs ≠ [] ∧ dotted = (labels cs).2 ∧ ∃ changed,
      List.Forall₂ (fun label form => change label = .ok form) (labels cs).1 changed ∧
        name = join changed dotted := by
  unfold changeLabels at h
  obtain ⟨-, h⟩ := Except.guard_eq_ok h
  obtain ⟨hne, h⟩ := Except.guard_eq_ok h
  obtain ⟨changed, hchanged, h⟩ := Except.bind_eq_ok h
  obtain ⟨rfl, rfl⟩ := Prod.mk.inj (Except.ok.inj h)
  exact ⟨by simpa using hne, rfl, changed, Except.mapM_eq_ok_iff.mp hchanged, rfl⟩

/-- The forms of labels are labels in ASCII, and each is shown as its label is. -/
theorem forms_spec {parts forms : List (List Char)}
    (hparts : ∀ label ∈ parts, (∀ c ∈ label, IsLower c) ∧ '.' ∉ label)
    (h : List.Forall₂ (fun label form => labelToAscii label = .ok form) parts forms) :
    (∀ form ∈ forms, form ≠ [] ∧ ∀ c ∈ form, c.toNat < 128 ∧ c ≠ '.') ∧
      ∃ shown, List.Forall₂ Shows parts shown ∧
        List.Forall₂ (fun form s => labelToUnicode form = .ok s) forms shown := by
  induction h with
  | nil => exact ⟨List.forall_mem_nil _, [], .nil, .nil⟩
  | cons hform _ ih =>
    obtain ⟨⟨hlower, hdot⟩, hparts⟩ := List.forall_mem_cons.mp hparts
    obtain ⟨hplain, shown, hlabels, hforms⟩ := ih hparts
    obtain ⟨s, hs, hshows⟩ := exists_shows_of_labelToAscii hlower hdot hform
    exact ⟨List.forall_mem_cons.mpr ⟨form_spec hlower hdot hform, hplain⟩, s :: shown,
      .cons hshows hlabels, .cons hs hforms⟩

/-- The ASCII form of a name is put together from the forms of its labels. -/
theorem toAscii_eq_ok {cs name : List Char} (h : toAscii cs = .ok name) :
    cs ≠ [] ∧ name.length ≤ maxName ∧ ∃ forms,
      List.Forall₂ (fun label form => labelToAscii label = .ok form) (labels cs).1 forms ∧
        name = join forms (labels cs).2 := by
  obtain ⟨⟨name, dotted⟩, hchange, h⟩ := Except.bind_eq_ok h
  obtain ⟨hlength, h⟩ := Except.guard_eq_ok h
  obtain rfl := Except.ok.inj h
  obtain ⟨hne, rfl, forms, hforms, rfl⟩ := changeLabels_eq_ok hchange
  refine ⟨hne, ?_, forms, hforms, rfl⟩
  have hle : (if (labels cs).2 = true then maxName else maxName - 1) ≤ maxName := by
    split <;> decide
  omega

/-- A short name is shown if all of its labels are. -/
theorem toUnicode_of_labels {name : List Char} (hlength : name.length ≤ maxName)
    {forms shown : List (List Char)} {dotted : Bool} (hlabels : labels name = (forms, dotted))
    (hne : forms ≠ [])
    (hshown : List.Forall₂ (fun form s => labelToUnicode form = .ok s) forms shown) :
    toUnicode name = .ok (join shown dotted) := by
  have hfits : ¬(maxInput < name.length ∨ maxName < name.length) := by
    have hle : maxName ≤ maxInput := by decide
    omega
  have hempty : ¬name.isEmpty = true := by
    intro hempty
    rw [List.isEmpty_iff] at hempty
    subst hempty
    exact hne (Prod.mk.inj hlabels).1.symm
  rw [toUnicode, changeLabels, if_neg hfits, if_neg hempty, hlabels]
  dsimp only
  rw [Except.mapM_eq_ok_iff.mpr hshown]
  rfl

/-- **A name is shown again from its ASCII form**, label by label; and the form is put together from
the forms of the labels. -/
theorem toAscii_spec {cs name : List Char} (hlower : ∀ c ∈ cs, IsLower c)
    (h : toAscii cs = .ok name) :
    ∃ forms shown, name = join forms (labels cs).2 ∧
      toUnicode name = .ok (join shown (labels cs).2) ∧
      List.Forall₂ (fun label form => labelToAscii label = .ok form) (labels cs).1 forms ∧
      List.Forall₂ Shows (labels cs).1 shown ∧
      ∀ c ∈ name, c.toNat < 128 := by
  obtain ⟨hne, hlength, forms, hforms, rfl⟩ := toAscii_eq_ok h
  have hparts : ∀ label ∈ (labels cs).1, (∀ c ∈ label, IsLower c) ∧ '.' ∉ label := by
    refine fun label hlabel => ⟨fun c hc => hlower c (of_mem_labels hlabel hc).1, fun hdot => ?_⟩
    exact absurd (of_mem_labels hlabel hdot).2 (by decide)
  obtain ⟨hplain, shown, hshown, hread⟩ := forms_spec hparts hforms
  have hforms_ne : forms ≠ [] := by
    rintro rfl
    exact labels_ne_nil hne (List.forall₂_nil_right_iff.mp hforms)
  have hlabels : labels (join forms (labels cs).2) = (forms, (labels cs).2) :=
    labels_join hforms_ne (fun form hform => ⟨(hplain form hform).1, fun c hc =>
      isDot_eq_false_of_ascii ((hplain form hform).2 c hc).1 ((hplain form hform).2 c hc).2⟩) _
  refine ⟨forms, shown, rfl, toUnicode_of_labels hlength hlabels hforms_ne hread, hforms, hshown,
    fun c hc => ?_⟩
  rcases of_mem_join hc with rfl | ⟨form, hform, hc⟩
  · decide
  · exact ((hplain form hform).2 c hc).1

/-- A name begins with its first label, and behind that stands nothing or a dot. -/
theorem exists_join_eq_append (part : List Char) (parts : List (List Char)) (dotted : Bool) :
    ∃ behind, join (part :: parts) dotted = part ++ behind ∧
      ∀ c, behind.head? = some c → c = '.' := by
  rw [join, List.cons_append]
  cases parts ++ (if dotted then [[]] else []) with
  | nil => exact ⟨[], by simp, nofun⟩
  | cons next others =>
    rw [List.intercalate_cons_cons, List.append_assoc]
    exact ⟨_, rfl, fun c hc => (Option.some.inj hc).symm⟩

/-- The form of a label looks like one, unless the label is in ASCII and does not. -/
theorem isSome_dropFront?_mark_of_labelToAscii {label form : List Char}
    (h : labelToAscii label = .ok form) :
    (Text.dropFront? mark form).isSome =
      (!isAscii label || (Text.dropFront? mark label).isSome) := by
  cases hascii : isAscii label with
  | true =>
    obtain ⟨rfl, -⟩ := labelToAscii_of_ascii hascii h
    rfl
  | false =>
    obtain ⟨-, rfl, -⟩ := labelToAscii_of_foreign hascii h
    rw [Text.dropFront?_eq_some_iff.mpr rfl]
    rfl

/-- A form of a name looks like one by the form of its first label. -/
theorem isSome_dropFront?_mark_join (form : List Char) (forms : List (List Char)) (dotted : Bool) :
    (Text.dropFront? mark (join (form :: forms) dotted)).isSome =
      (Text.dropFront? mark form).isSome := by
  obtain ⟨behind, hjoin, hhead⟩ := exists_join_eq_append form forms dotted
  rw [hjoin]
  refine Text.isSome_dropFront?_append fun c hc hmem => ?_
  rw [hhead c hc] at hmem
  exact absurd hmem (by decide)

/-! ## Names that are shown as they are -/

theorem foreignCount_intercalate (parts : List (List Char)) :
    foreignCount (List.intercalate ['.'] parts) = (parts.map foreignCount).sum := by
  induction parts with
  | nil => rfl
  | cons part parts ih =>
    cases parts with
    | nil => simp
    | cons next parts =>
      have hdot : foreignCount ['.'] = 0 := by decide
      rw [List.intercalate_cons_cons, foreignCount_append, foreignCount_append, ih, hdot,
        List.map_cons, List.sum_cons]
      rfl

theorem foreignCount_join (parts : List (List Char)) (dotted : Bool) :
    foreignCount (join parts dotted) = (parts.map foreignCount).sum := by
  have hnil : foreignCount [] = 0 := rfl
  rw [join, foreignCount_intercalate]
  cases dotted <;> simp [hnil]

/-- A label is shown with no less characters beyond ASCII than it holds, and with more, if it is a
form. -/
theorem Shows.foreignCount_le {label shown : List Char} (h : Shows label shown) :
    foreignCount label ≤ foreignCount shown ∧
      (foreignCount shown ≤ foreignCount label → Text.dropFront? mark label = none) := by
  by_cases hmark : Text.dropFront? mark label = none
  · exact ⟨by rw [h.same hmark], fun _ => hmark⟩
  · obtain ⟨hascii, hforeign⟩ := h.decoded hmark
    have hzero := foreignCount_eq_zero.mpr hascii
    have hpos := foreignCount_pos.mpr hforeign
    exact ⟨by omega, by omega⟩

theorem sum_foreignCount_le {parts shown : List (List Char)} (h : List.Forall₂ Shows parts shown) :
    (parts.map foreignCount).sum ≤ (shown.map foreignCount).sum ∧
      ((shown.map foreignCount).sum ≤ (parts.map foreignCount).sum →
        ∀ label ∈ parts, Text.dropFront? mark label = none) := by
  induction h with
  | nil => exact ⟨le_rfl, fun _ => List.forall_mem_nil _⟩
  | cons hshows _ ih =>
    obtain ⟨hle, hmark⟩ := hshows.foreignCount_le
    simp only [List.map_cons, List.sum_cons, List.forall_mem_cons]
    exact ⟨by omega, fun hsum => ⟨hmark (by omega), ih.2 (by omega)⟩⟩

theorem eq_of_forall₂_shows {parts shown : List (List Char)} (h : List.Forall₂ Shows parts shown)
    (hmark : ∀ label ∈ parts, Text.dropFront? mark label = none) : shown = parts := by
  induction h with
  | nil => rfl
  | cons hshows _ ih =>
    obtain ⟨hlabel, hlabels⟩ := List.forall_mem_cons.mp hmark
    rw [hshows.same hlabel, ih hlabels]

theorem plain_of_forall₂_shows {parts shown : List (List Char)}
    (h : List.Forall₂ Shows parts shown) :
    ∀ s ∈ shown, kelvin ∉ s ∧ ∀ c ∈ s, isDot c = false := by
  induction h with
  | nil => exact List.forall_mem_nil _
  | cons hshows _ ih =>
    exact List.forall_mem_cons.mpr ⟨⟨hshows.kelvin_not_mem, hshows.isDot_eq_false⟩, ih⟩

/-- Dots are barred, so none arises in lower case. -/
theorem isBarred_of_isDot {c : Char} (hc : isDot c = true) : IsBarred c.toNat := by
  simp only [isDot, Bool.or_eq_true, decide_eq_true_eq] at hc
  rcases hc with ((rfl | hc) | hc) | hc
  · decide
  all_goals
    rw [hc]
    decide

/-- **A name in lower case is shown as it is** exactly if its dots are full stops and none of its
labels is in ASCII form. -/
theorem lower_join_eq_iff {cs : List Char} {shown : List (List Char)}
    (hlower : ∀ c ∈ cs, IsLower c) (hshown : List.Forall₂ Shows (labels cs).1 shown) :
    lower (join shown (labels cs).2) = cs ↔
      (∀ c ∈ cs, isDot c = true → c = '.') ∧
        ∀ label ∈ (labels cs).1, Text.dropFront? mark label = none := by
  constructor
  · intro heq
    have hplain := plain_of_forall₂_shows hshown
    have hdots : ∀ c ∈ cs, isDot c = true → c = '.' := by
      intro c hc hdot
      rw [← heq] at hc
      rcases of_mem_join (mem_of_mem_lower hc (isBarred_of_isDot hdot)) with hc | ⟨s, hs, hc⟩
      · exact hc
      · rw [(hplain s hs).2 c hc] at hdot
        cases hdot
    -- a form among the labels would leave more characters beyond ASCII than there are
    have hkelvin : kelvin ∉ join shown (labels cs).2 := by
      intro hmem
      rcases of_mem_join hmem with hdot | ⟨s, hs, hmem⟩
      · exact absurd hdot (by decide)
      · exact (hplain s hs).1 hmem
    have hcount := foreignCount_le_lowerFrom hkelvin []
    have hlabels : foreignCount cs = ((labels cs).1.map foreignCount).sum := by
      rw [← foreignCount_join _ (labels cs).2, join_labels, plainDots_eq_self_iff.mpr hdots]
    rw [← lower, heq, foreignCount_join, hlabels] at hcount
    exact ⟨hdots, (sum_foreignCount_le hshown).2 hcount⟩
  · rintro ⟨hdots, hmark⟩
    rw [eq_of_forall₂_shows hshown hmark, join_labels, plainDots_eq_self_iff.mpr hdots,
      lower_eq_self hlower]

/-- A name in lower case that a URL shows as it stands: it begins with a label in another script,
its dots are full stops, and none of its labels is in ASCII form. -/
@[mk_iff]
structure ShowsItself (cs : List Char) : Prop where
  front : ∀ label ∈ (labels cs).1.head?, isAscii label = false
  dots : ∀ c ∈ cs, isDot c = true → c = '.'
  unmarked : ∀ label ∈ (labels cs).1, Text.dropFront? mark label = none

/-- The dots are compared with full stops as a whole: to decide a statement on each character of
a name, all characters there are would be gone through. -/
instance (cs : List Char) : Decidable (ShowsItself cs) :=
  decidable_of_iff ((∀ label ∈ (labels cs).1.head?, isAscii label = false) ∧ plainDots cs = cs ∧
      ∀ label ∈ (labels cs).1, Text.dropFront? mark label = none)
    (by rw [showsItself_iff, plainDots_eq_self_iff])

end Hostname

/-- **A URL shows a name in another script, and it shows the name as it stands** exactly if that
begins with a label in another script, has no other dots than full stops, and no label in ASCII
form. -/
theorem Url.shownHost_of_toAscii {u : Url} {cs : List Char}
    (hlower : ∀ c ∈ cs, Unicode.IsLower c) (hforeign : ∃ c ∈ cs, 128 ≤ c.toNat)
    (h : Hostname.toAscii cs = .ok u.host) :
    ∃ shown, u.shownHost = .ok shown ∧ (Unicode.lower shown = cs ↔ Hostname.ShowsItself cs) := by
  obtain ⟨forms, shown, hname, hshown, hforms, hshows, hascii⟩ := Hostname.toAscii_spec hlower h
  obtain ⟨label, others, hlabels⟩ :=
    List.exists_cons_of_ne_nil (Hostname.labels_ne_nil (Hostname.toAscii_eq_ok h).1)
  have hmark : (Text.dropFront? Hostname.mark u.host).isSome =
      (!Hostname.isAscii label || (Text.dropFront? Hostname.mark label).isSome) := by
    rw [hlabels] at hforms
    obtain ⟨form, rest, hform, -, rfl⟩ := List.forall₂_cons_left_iff.mp hforms
    rw [hname, Hostname.isSome_dropFront?_mark_join,
      Hostname.isSome_dropFront?_mark_of_labelToAscii hform]
  have hhead : (Hostname.labels cs).1.head? = some label := by
    rw [hlabels]
    rfl
  unfold Url.shownHost
  split
  · next hisSome =>
    refine ⟨_, hshown, (Hostname.lower_join_eq_iff hlower hshows).trans
      ⟨?_, fun h => ⟨h.dots, h.unmarked⟩⟩⟩
    rintro ⟨hdots, hunmarked⟩
    refine ⟨fun l hl => ?_, hdots, hunmarked⟩
    obtain rfl := Option.some.inj (hhead.symm.trans hl)
    rw [hisSome, hunmarked label (List.mem_of_mem_head? hl)] at hmark
    simpa using hmark
  · next hisNone =>
    -- what is not read as a form is shown in ASCII
    refine ⟨_, rfl, iff_of_false (fun heq => ?_) fun h => ?_⟩
    · obtain ⟨c, hc, hcode⟩ := hforeign
      rw [← heq, Unicode.lower_eq_map_toLower hascii] at hc
      obtain ⟨d, hd, rfl⟩ := List.mem_map.mp hc
      exact absurd (Char.toNat_toLower_lt (hascii d hd)) (Nat.not_lt.mpr hcode)
    · rw [h.front label hhead] at hmark
      exact hisNone hmark

example : Hostname.ShowsItself "bücher.example.".toList := by decide
example : ¬Hostname.ShowsItself "registry.bücher.example".toList := by decide
example : ¬Hostname.ShowsItself "bücher。example".toList := by decide
example : ¬Hostname.ShowsItself "bücher.xn--bcher-kva.example".toList := by decide

end RegistryAuth
