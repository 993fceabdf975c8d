import RegistryAuth.Proofs.Challenge.Written

/-!
# Challenges in parts

A challenge is put together from a scheme and parameters, and `Challenge.parse` takes it apart
again (`Challenge.parse_text`): nothing that stands in a value is taken for another parameter,
however much it looks like one, and under each name stands what the last parameter of that name
says.

What a text in quotes says is told sign by sign (`Sign`): a shielded quote is a quote, and
everything else is kept as it is written.  So of a text that is written with a backslash in front of
each quote and each backslash, the quotes are read back, and the backslashes are still in pairs
(`Challenge.param?_of_quote`): it is read back as a whole only if it holds none.
-/

namespace RegistryAuth
namespace Challenge

/-! ## Signs -/

/-- What stands in quotes, one by one: a character by itself, or one behind a backslash. -/
inductive Sign where
  | plain (c : Char)
  | shielded (c : Char)
  deriving Repr, DecidableEq

namespace Sign

/-- The sign as it is written. -/
def text : Sign → List Char
  | .plain c => [c]
  | .shielded c => ['\\', c]

/-- What the sign says. -/
def value : Sign → List Char
  | .plain c => [c]
  | .shielded c => if c = '"' then ['"'] else ['\\', c]

/-- The sign is one by the rules: quotes and backslashes are shielded, and line ends are not. -/
def IsSound : Sign → Prop
  | .plain c => c ≠ '"' ∧ c ≠ '\\'
  | .shielded c => c ≠ '\n'

instance : (s : Sign) → Decidable s.IsSound
  | .plain c => inferInstanceAs (Decidable (c ≠ '"' ∧ c ≠ '\\'))
  | .shielded c => inferInstanceAs (Decidable (c ≠ '\n'))

theorem isQuotable_text {signs : List Sign} (h : ∀ s ∈ signs, s.IsSound) :
    IsQuotable (signs.flatMap text) := by
  induction signs with
  | nil => exact .nil
  | cons s signs ih =>
    obtain ⟨hs, hsigns⟩ := List.forall_mem_cons.mp h
    cases s with
    | plain c => exact .plain hs.1 hs.2 (ih hsigns)
    | shielded c => exact .shielded hs (ih hsigns)

/-- No sign begins with a quote. -/
theorem head?_text_ne {signs : List Sign} (h : ∀ s ∈ signs, s.IsSound) :
    (signs.flatMap text).head? ≠ some '"' := by
  cases signs with
  | nil => nofun
  | cons s signs =>
    have hs := h s List.mem_cons_self
    cases s with
    | plain c => exact fun hc => hs.1 (Option.some.inj hc)
    | shielded c => exact fun hc => absurd (Option.some.inj hc) (by decide)

/-- What is not followed by a quote is kept. -/
theorem unescape_cons (c : Char) {cs : List Char} (hcs : cs.head? ≠ some '"') :
    unescape (c :: cs) = c :: unescape cs := by
  rw [unescape]
  rintro ds - rfl
  exact hcs rfl

/-- What a text in quotes says is what its signs say. -/
theorem unescape_text {signs : List Sign} (h : ∀ s ∈ signs, s.IsSound) :
    unescape (signs.flatMap text) = signs.flatMap value := by
  induction signs with
  | nil => rfl
  | cons s signs ih =>
    obtain ⟨-, hsigns⟩ := List.forall_mem_cons.mp h
    rw [List.flatMap_cons, List.flatMap_cons, ← ih hsigns]
    have hrest (c : Char) := unescape_cons c (head?_text_ne hsigns)
    cases s with
    | plain c => exact hrest c
    | shielded c =>
      by_cases hc : c = '"'
      · subst hc
        rfl
      · have hhead : (c :: signs.flatMap text).head? ≠ some '"' := fun h => hc (Option.some.inj h)
        rw [value, if_neg hc]
        exact (unescape_cons '\\' hhead).trans (congrArg ('\\' :: ·) (hrest c))

end Sign

/-! ## Quoted texts -/

/-- A text as it is quoted: a backslash stands in front of each quote and of each backslash. -/
def quote (text : List Char) : List Sign :=
  text.map fun c => if c = '"' ∨ c = '\\' then .shielded c else .plain c

/-- A text in which each backslash stands twice. -/
def doubleSlashes (text : List Char) : List Char :=
  text.flatMap fun c => if c = '\\' then ['\\', '\\'] else [c]

/-- Of a text that is quoted the quotes are read back, but each backslash is read twice. -/
theorem flatMap_value_quote (text : List Char) :
    (quote text).flatMap Sign.value = doubleSlashes text := by
  have hvalue (c : Char) : (if c = '"' ∨ c = '\\' then Sign.shielded c else .plain c).value =
      if c = '\\' then ['\\', '\\'] else [c] := by
    by_cases hquote : c = '"'
    · subst hquote
      rfl
    · by_cases hslash : c = '\\'
      · subst hslash
        rfl
      · rw [if_neg (not_or.mpr ⟨hquote, hslash⟩), if_neg hslash]
        rfl
  rw [quote, doubleSlashes, List.flatMap_map]
  exact congrArg (text.flatMap ·) (funext hvalue)

theorem length_doubleSlashes (text : List Char) :
    (doubleSlashes text).length = text.length + text.count '\\' := by
  induction text with
  | nil => rfl
  | cons c text ih =>
    rw [doubleSlashes, List.flatMap_cons, List.length_append, ← doubleSlashes, ih]
    by_cases hc : c = '\\'
    · subst hc
      simp
      omega
    · rw [if_neg hc, List.count_cons_of_ne hc]
      simp
      omega

theorem doubleSlashes_eq_self_iff {text : List Char} :
    doubleSlashes text = text ↔ '\\' ∉ text := by
  constructor
  · intro heq
    have hlength := length_doubleSlashes text
    rw [heq] at hlength
    exact List.count_eq_zero.mp (by omega)
  · intro hslash
    induction text with
    | nil => rfl
    | cons c text ih =>
      obtain ⟨hc, htext⟩ := not_or.mp (mt List.mem_cons.mpr hslash)
      rw [doubleSlashes, List.flatMap_cons, if_neg (Ne.symm hc), ← doubleSlashes, ih htext]
      rfl

/-! ## Parameters -/

/-- A value as it is written: in quotes, or as it is. -/
inductive Form where
  | quoted (signs : List Sign)
  | bare (text : List Char)
  deriving Repr, DecidableEq

/-- The form is one by the rules. -/
def Form.IsSound : Form → Prop
  | .quoted signs => ∀ s ∈ signs, s.IsSound
  | .bare text => text ≠ [] ∧ text.head? ≠ some '"' ∧
      text.all fun c => !Text.isBlank c && c != ',' && c != '\\'

instance : (f : Form) → Decidable f.IsSound
  | .quoted signs => inferInstanceAs (Decidable (∀ s ∈ signs, s.IsSound))
  | .bare text => inferInstanceAs (Decidable (text ≠ [] ∧ text.head? ≠ some '"' ∧
      text.all fun c => !Text.isBlank c && c != ',' && c != '\\'))

/-- A parameter: its name, the blanks around the equal sign, and its value. -/
structure Param where
  name : List Char
  before : List Char
  after : List Char
  form : Form
  deriving Repr, DecidableEq

namespace Param

/-- The parameter as it is written. -/
def written (p : Param) : Written :=
  match p.form with
  | .quoted signs => ⟨p.name, p.before, p.after, true, signs.flatMap Sign.text⟩
  | .bare text => ⟨p.name, p.before, p.after, false, text⟩

/-- The name under which the parameter is found. -/
def key (p : Param) : String := String.ofList (p.name.map Char.toLower)

/-- What the parameter says. -/
def value (p : Param) : String :=
  match p.form with
  | .quoted signs => String.ofList (signs.flatMap Sign.value)
  | .bare text => String.ofList text

/-- The parameter is one by the rules. -/
@[mk_iff]
structure IsSound (p : Param) : Prop where
  name_ne_nil : p.name ≠ []
  name_word : p.name.all Unicode.isAsciiWord
  before_blank : p.before.all Text.isBlank
  after_blank : p.after.all Text.isBlank
  form_sound : p.form.IsSound

instance (p : Param) : Decidable p.IsSound := decidable_of_iff' _ (isSound_iff p)

theorem key_written (p : Param) : p.written.key = p.key := by
  unfold written
  cases p.form <;> rfl

theorem IsSound.isSound_written {p : Param} (h : p.IsSound) : p.written.IsSound := by
  have hname := List.all_eq_true.mp h.name_word
  have hbefore := isGap_of_isBlank (List.all_eq_true.mp h.before_blank)
  have hafter := isGap_of_isBlank (List.all_eq_true.mp h.after_blank)
  have hform := h.form_sound
  unfold written
  cases hp : p.form with
  | quoted signs =>
    rw [hp] at hform
    exact ⟨h.name_ne_nil, hname, hbefore, hafter, Sign.isQuotable_text hform⟩
  | bare text =>
    rw [hp] at hform
    obtain ⟨hne, hhead, htext⟩ := hform
    refine ⟨h.name_ne_nil, hname, hbefore, hafter, hne, fun c hc => ?_, hhead⟩
    have hc := List.all_eq_true.mp htext c hc
    rw [Bool.and_eq_true] at hc
    exact hc.1

theorem IsSound.value_written {p : Param} (h : p.IsSound) : p.written.value = p.value := by
  have hform := h.form_sound
  unfold written value
  cases hp : p.form with
  | quoted signs =>
    rw [hp] at hform
    exact congrArg String.ofList (Sign.unescape_text hform)
  | bare text =>
    rw [hp] at hform
    have hslash : '\\' ∉ text := fun hmem => by
      have hc := List.all_eq_true.mp hform.2.2 _ hmem
      rw [bne_self_eq_false, Bool.and_false] at hc
      cases hc
    exact congrArg String.ofList (unescape_eq_self hslash)

end Param

/-! ## Challenges -/

/-- A challenge in its parts: the scheme, the blanks behind it, and the parameters, each with the
blanks before and behind the comma in front of it.  No comma stands in front of the first. -/
structure Parts where
  scheme : List Char
  blanks : List Char
  params : List (List Char × List Char × Param)
  deriving Repr, DecidableEq

namespace Parts

/-- The text of parameters. -/
def paramsText : List (List Char × List Char × Param) → List Char
  | [] => []
  | (_, _, p) :: rest =>
    p.written.render ++ renderParams (rest.map fun q => (q.1, q.2.1, q.2.2.written))

/-- The text of the challenge. -/
def text (d : Parts) : List Char := d.scheme ++ d.blanks ++ paramsText d.params

/-- The parameters that the challenge states. -/
def stated (d : Parts) : List Param := d.params.map fun q => q.2.2

/-- The challenge is one by the rules. -/
@[mk_iff]
structure IsSound (d : Parts) : Prop where
  scheme_ne_nil : d.scheme ≠ []
  scheme_solid : d.scheme.all fun c => !Text.isBlank c
  blanks_ne_nil : d.blanks ≠ []
  blanks_eq : d.blanks.all (· = ' ')
  gaps_blank : ∀ q ∈ d.params, q.1.all Text.isBlank ∧ q.2.1.all Text.isBlank
  params_sound : ∀ p ∈ d.stated, p.IsSound

instance (d : Parts) : Decidable d.IsSound := decidable_of_iff' _ (isSound_iff d)

/-- A scheme may stand alone. -/
theorem parseChars_scheme {scheme blanks : List Char}
    (hsolid : ∀ c ∈ scheme, Text.isBlank c = false) (hblanks : ∀ c ∈ blanks, c = ' ') :
    parseChars (scheme ++ blanks) = ⟨String.ofList (Unicode.lower scheme), []⟩ := by
  have htrim : Text.trim (scheme ++ blanks) = scheme :=
    Text.trimBoth_append (List.forall_mem_nil _) (fun c hc => by rw [hblanks c hc]; rfl) hsolid
  have hcut : Text.cut? (· = ' ') scheme = none := by
    rw [Text.cut?_eq_none_iff]
    intro c hc
    have hblank := hsolid c hc
    rw [decide_eq_false_iff_not]
    rintro rfl
    cases hblank
  simp only [parseChars, htrim, hcut, readParams, List.foldl_nil]

/-- The parameters are set one after the other. -/
theorem IsSound.parseChars_text {d : Parts} (h : d.IsSound) :
    parseChars d.text = ⟨String.ofList (Unicode.lower d.scheme),
      (d.stated.map Param.written).foldl (fun params w => setParam w.key w.value params) []⟩ := by
  obtain ⟨scheme, blanks, params⟩ := d
  have hsolid : ∀ c ∈ scheme, Text.isBlank c = false := by
    simpa using List.all_eq_true.mp h.scheme_solid
  have hblanks : ∀ c ∈ blanks, c = ' ' := by simpa using List.all_eq_true.mp h.blanks_eq
  cases params with
  | nil =>
    rw [text, paramsText, List.append_nil]
    exact parseChars_scheme hsolid hblanks
  | cons q rest =>
    obtain ⟨before, after, p⟩ := q
    obtain ⟨hp, hrest⟩ := List.forall_mem_cons.mp h.params_sound
    obtain ⟨-, hgaps⟩ := List.forall_mem_cons.mp h.gaps_blank
    have hsound : Challenge.IsSound scheme blanks p.written
        (rest.map fun q => (q.1, q.2.1, q.2.2.written)) := {
      scheme_ne_nil := h.scheme_ne_nil
      scheme_solid := hsolid
      blanks_ne_nil := h.blanks_ne_nil
      blanks_eq := hblanks
      first_sound := hp.isSound_written
      rest_sound := by
        intro w hw
        obtain ⟨q, hq, rfl⟩ := List.mem_map.mp hw
        obtain ⟨hbefore, hafter⟩ := hgaps q hq
        exact ⟨isGap_of_isBlank (List.all_eq_true.mp hbefore),
          isGap_of_isBlank (List.all_eq_true.mp hafter),
          (hrest _ (List.mem_map_of_mem hq)).isSound_written⟩ }
    have hstated : written p.written (rest.map fun q => (q.1, q.2.1, q.2.2.written)) =
        (stated ⟨scheme, blanks, (before, after, p) :: rest⟩).map Param.written := by
      simp [written, stated, Function.comp_def]
    have hread := parseChars_render hsound
    rw [render, List.append_assoc] at hread
    rw [text, paramsText, hread, hstated]

end Parts

/-! ## What is read -/

theorem map_fst_setParam (key value : String) (params : List (String × String)) :
    (setParam key value params).map Prod.fst =
      if key ∈ params.map Prod.fst then params.map Prod.fst else params.map Prod.fst ++ [key] := by
  induction params with
  | nil => rfl
  | cons p params ih =>
    obtain ⟨k, v⟩ := p
    rw [setParam]
    by_cases hk : k = key
    · simp [hk]
    · rw [if_neg hk, List.map_cons, ih]
      by_cases hmem : key ∈ params.map Prod.fst <;> simp [hmem, Ne.symm hk]

/-- No name is set twice. -/
theorem nodup_foldl_setParam (ws : List Written) {params : List (String × String)}
    (h : (params.map Prod.fst).Nodup) :
    ((ws.foldl (fun params w => setParam w.key w.value params) params).map Prod.fst).Nodup := by
  induction ws generalizing params with
  | nil => exact h
  | cons w ws ih =>
    refine ih ?_
    rw [map_fst_setParam]
    split
    · exact h
    · next hnew =>
      rw [List.nodup_append]
      refine ⟨h, List.nodup_singleton _, fun a ha b hb => ?_⟩
      rw [List.mem_singleton.mp hb]
      rintro rfl
      exact hnew ha

namespace Parts

variable {d : Parts}

/-- Under a name stands what the last parameter of that name says. -/
theorem IsSound.param?_eq (h : d.IsSound) (key : String) :
    (parse (String.ofList d.text)).param? key =
      (d.stated.filter fun p => p.key = key).getLast?.map Param.value := by
  have hkey : ((fun w : Written => decide (w.key = key)) ∘ Param.written) =
      fun p => decide (p.key = key) := by
    funext p
    rw [Function.comp_apply, Param.key_written]
  rw [parse, String.toList_ofList, h.parseChars_text, param?, lookup_foldl_setParam,
    List.filter_map, hkey, List.getLast?_map, Option.map_map, List.lookup_nil, Option.or_none]
  refine Option.map_congr fun p hp => ?_
  exact (h.params_sound p (List.mem_of_mem_filter (List.mem_of_getLast? hp))).value_written

end Parts

/-- **A challenge is taken apart into the parts that it was put together from**: the scheme in
lower case, and under each name, once, what the last parameter of that name says. -/
theorem parse_text {d : Parts} (h : d.IsSound) :
    let challenge := parse (String.ofList d.text)
    challenge.scheme = String.ofList (Unicode.lower d.scheme) ∧
      (challenge.params.map Prod.fst).Nodup ∧
      ∀ key, challenge.param? key =
        (d.stated.filter fun p => p.key = key).getLast?.map Param.value := by
  intro challenge
  have hparse : challenge = ⟨String.ofList (Unicode.lower d.scheme),
      (d.stated.map Param.written).foldl (fun params w => setParam w.key w.value params) []⟩ := by
    rw [← h.parseChars_text]
    exact congrArg parseChars String.toList_ofList
  refine ⟨by rw [hparse], ?_, h.param?_eq⟩
  rw [hparse]
  exact nodup_foldl_setParam _ List.nodup_nil

/-- A name comes twice, and the value in quotes holds a comma, quotes, and what looks like a
parameter. -/
theorem parse_text_crafted_value :
    let signs := quote "a, realm=\"b\" ".toList ++ [.shielded 'y']
    let d : Parts := ⟨"BEARER".toList, "  ".toList,
      [([], [], ⟨"realm".toList, [], "\t".toList, .bare "x".toList⟩),
        (" ".toList, [], ⟨"Service".toList, [], [], .bare "x\"y=z".toList⟩),
        ([], "\n".toList, ⟨"REALM".toList, " ".toList, [], .quoted signs⟩)]⟩
    d.IsSound ∧
      String.ofList d.text =
        "BEARER  realm=\tx ,Service=x\"y=z,\nREALM =\"a, realm=\\\"b\\\" \\y\"" ∧
      (parse (String.ofList d.text)).param? "realm" = some "a, realm=\"b\" \\y" ∧
      (parse (String.ofList d.text)).param? "service" = some "x\"y=z" := by
  intro signs d
  have hsound : d.IsSound := by decide +kernel
  obtain ⟨-, -, hparam⟩ := parse_text hsound
  refine ⟨hsound, by decide +kernel, (hparam _).trans ?_, (hparam _).trans ?_⟩
  · decide +kernel
  · decide +kernel

/-- **A quoted text is read with its quotes as they are and its backslashes in pairs**, so that it
is read back exactly if it holds no backslash. -/
theorem param?_of_quote {d : Parts} (h : d.IsSound) {front behind : List Param} {p : Param}
    {text : List Char} (hstated : d.stated = front ++ p :: behind)
    (hform : p.form = .quoted (quote text)) (hlast : ∀ q ∈ behind, q.key ≠ p.key) :
    let said := (parse (String.ofList d.text)).param? p.key
    said = some (String.ofList (doubleSlashes text)) ∧
      (said = some (String.ofList text) ↔ '\\' ∉ text) := by
  intro said
  have hbehind : (behind.filter fun q => q.key = p.key) = [] := by
    rw [List.filter_eq_nil_iff]
    simpa using hlast
  have hvalue : p.value = String.ofList (doubleSlashes text) := by
    rw [Param.value, hform]
    exact congrArg String.ofList (flatMap_value_quote text)
  have hread : said = (d.stated.filter fun q => q.key = p.key).getLast?.map Param.value :=
    h.param?_eq p.key
  have hsaid : said = some (String.ofList (doubleSlashes text)) := by
    rw [hread, hstated, List.filter_append, List.filter_cons_of_pos (by simp), hbehind,
      List.getLast?_concat, Option.map_some, hvalue]
  refine ⟨hsaid, ?_⟩
  rw [hsaid, Option.some_inj, String.ofList_inj, doubleSlashes_eq_self_iff]

/-- A text with quotes at its ends, and one with a backslash in front of a quote. -/
theorem param?_of_quote_nested :
    let p : Param := ⟨"realm".toList, [], [], .quoted (quote "\"a\" b\"".toList)⟩
    let q : Param := ⟨"scope".toList, [], [], .quoted (quote "a\\\"".toList)⟩
    let d : Parts := ⟨"Bearer".toList, [' '], [([], [], p), ([], [], q)]⟩
    d.IsSound ∧
      String.ofList d.text = "Bearer realm=\"\\\"a\\\" b\\\"\",scope=\"a\\\\\\\"\"" ∧
      (parse (String.ofList d.text)).param? "realm" = some "\"a\" b\"" ∧
      (parse (String.ofList d.text)).param? "scope" = some "a\\\\\"" := by
  intro p q d
  have hsound : d.IsSound := by decide +kernel
  have hfirst : d.stated = [] ++ p :: [q] := rfl
  have hsecond : d.stated = [p] ++ q :: [] := rfl
  have hp := param?_of_quote hsound hfirst rfl (by decide)
  have hq := param?_of_quote hsound hsecond rfl (List.forall_mem_nil _)
  exact ⟨hsound, by decide +kernel, hp.1, hq.1⟩

/-- A backslash is shielded by another, and both are read. -/
theorem param?_of_shielded_backslash :
    let text := "a\\b".toList
    let p : Param := ⟨"realm".toList, [], [], .quoted (quote text)⟩
    let d : Parts := ⟨"Bearer".toList, [' '], [([], [], p)]⟩
    String.ofList d.text = "Bearer realm=\"a\\\\b\"" ∧
      (parse (String.ofList d.text)).param? "realm" = some "a\\\\b" ∧
      (parse (String.ofList d.text)).param? "realm" ≠ some (String.ofList text) := by
  decide +kernel

end Challenge
end RegistryAuth
