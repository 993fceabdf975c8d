import RegistryAuth.Challenge
import RegistryAuth.Proofs.Text.Cut
import RegistryAuth.Proofs.Unicode.Word

/-!
# Challenges as they are written

`Challenge.render` writes a challenge: a scheme, blanks, and parameters with commas between
them.  Where its parts are sound (`Challenge.IsSound`), `Challenge.parse` reads it back:

* `readValue_render`: a value is read up to its end, whatever follows it; what looks like a
  parameter inside quotes is part of the body;
* `readParams_render`: the parameters are read one by one, and the gaps between them are
  passed over;
* `parseChars_render`: the scheme is put into lower case, and each parameter is set under its
  name in lower case;
* `param?_parseChars_render`: under a name stands the body of its last parameter.

## Why gaps and not blanks

The reader looks for names at every place, so what stands between two parameters must not
hold a letter of any script.  `IsGap` asks for that, and all blanks meet it
(`isGap_of_isBlank`).
-/

namespace RegistryAuth
namespace Challenge

/-! ## The parts of a written challenge -/

/-- Blanks that no name can hold. -/
def IsGap (cs : List Char) : Prop := ∀ c ∈ cs, Text.isBlank c = true ∧ Unicode.isWord c = false

theorem isGap_of_isBlank {cs : List Char} (hcs : ∀ c ∈ cs, Text.isBlank c = true) : IsGap cs :=
  fun c hc => ⟨hcs c hc, Unicode.isWord_eq_false_of_isBlank (hcs c hc)⟩

/-- What may stand in quotes: no quote, and a backslash only where it shields the character
behind it. -/
inductive IsQuotable : List Char → Prop where
  | nil : IsQuotable []
  | plain {c : Char} {cs : List Char} (hquote : c ≠ '"') (hslash : c ≠ '\\')
      (rest : IsQuotable cs) : IsQuotable (c :: cs)
  | shielded {c : Char} {cs : List Char} (hline : c ≠ '\n') (rest : IsQuotable cs) :
      IsQuotable ('\\' :: c :: cs)

theorem isQuotable_of_not_mem {body : List Char} (hquote : '"' ∉ body) (hslash : '\\' ∉ body) :
    IsQuotable body := by
  induction body with
  | nil => exact .nil
  | cons c cs ih =>
    obtain ⟨hc, hcs⟩ := not_or.mp (mt List.mem_cons.mpr hquote)
    obtain ⟨hd, hds⟩ := not_or.mp (mt List.mem_cons.mpr hslash)
    exact .plain (Ne.symm hc) (Ne.symm hd) (ih hcs hds)

/-- What may stand without quotes. -/
structure IsPlain (body : List Char) : Prop where
  ne_nil : body ≠ []
  bare : ∀ c ∈ body, isBare c = true
  head_ne : body.head? ≠ some '"'

namespace Written

/-- The parameter is one by the rules. -/
structure IsSound (w : Written) : Prop where
  name_ne_nil : w.name ≠ []
  name_word : ∀ c ∈ w.name, Unicode.isAsciiWord c = true
  before_gap : IsGap w.before
  after_gap : IsGap w.after
  body_fits : if w.isQuoted then IsQuotable w.body else IsPlain w.body

/-- The name under which the parameter is found. -/
def key (w : Written) : String := String.ofList (w.name.map Char.toLower)

/-- The value that the parameter has. -/
def value (w : Written) : String := String.ofList (unescape w.body)

/-- The body as it is written, in quotes or not. -/
def valueText (w : Written) : List Char := if w.isQuoted then '"' :: w.body ++ ['"'] else w.body

end Written

/-- The challenge is one by the rules: a scheme, one blank at least, and parameters with
commas between them. -/
structure IsSound (scheme blanks : List Char) (first : Written)
    (rest : List (List Char × List Char × Written)) : Prop where
  scheme_ne_nil : scheme ≠ []
  scheme_solid : ∀ c ∈ scheme, Text.isBlank c = false
  blanks_ne_nil : blanks ≠ []
  blanks_eq : ∀ c ∈ blanks, c = ' '
  first_sound : first.IsSound
  rest_sound : ∀ p ∈ rest, IsGap p.1 ∧ IsGap p.2.1 ∧ p.2.2.IsSound

/-- All parameters of a challenge. -/
def written (first : Written) (rest : List (List Char × List Char × Written)) : List Written :=
  first :: rest.map fun p => p.2.2

/-! ## One value -/

theorem readQuoted_append {body : List Char} (h : IsQuotable body) (left : List Char) :
    readQuoted (body ++ '"' :: left) = some (body, left) := by
  induction h with
  | nil => simp [readQuoted]
  | @plain c cs hquote hslash _ ih =>
    rw [List.cons_append, readQuoted, ih]
    · rfl
    · exact hquote
    · rintro rfl
      exact absurd rfl hslash
    · intro d ds hd
      exact absurd hd hslash
  | @shielded c cs hline _ ih =>
    rw [List.cons_append, List.cons_append, readQuoted, if_neg hline, ih]
    rfl

theorem readBare_append {body : List Char} (h : IsPlain body) {left : List Char}
    (hleft : ∀ c, left.head? = some c → isBare c = false) :
    readBare (body ++ left) = some (body, left) := by
  unfold readBare
  rw [Text.takeWhile_append_of_head h.bare hleft, Text.dropWhile_append_of_head h.bare hleft]
  cases hbody : body with
  | nil => exact absurd hbody h.ne_nil
  | cons c cs => rfl

/-- A value is read up to its end; one without quotes ends before a blank or a comma. -/
theorem readValue_render {w : Written} (h : w.IsSound) {left : List Char}
    (hleft : ∀ c, left.head? = some c → isBare c = false) :
    readValue (w.valueText ++ left) = some (w.body, left) := by
  have hfits := h.body_fits
  unfold Written.valueText
  cases hquoted : w.isQuoted with
  | true =>
    rw [hquoted, if_pos rfl] at hfits
    have hread := readQuoted_append hfits left
    simp [readValue, hread]
  | false =>
    rw [hquoted, if_neg Bool.false_ne_true] at hfits
    rw [if_neg Bool.false_ne_true]
    have hread := readBare_append hfits hleft
    cases hbody : w.body with
    | nil => exact absurd hbody hfits.ne_nil
    | cons c cs =>
      rw [hbody] at hread
      unfold readValue
      split
      · next rest heq =>
        -- a value that begins with a quote is one in quotes
        have hc : c = '"' := (List.cons.inj heq).1
        exact absurd (by rw [hbody, hc]; rfl) hfits.head_ne
      · exact hread

/-! ## One parameter after the other -/

theorem readParams_skip {front : List Char} (hfront : ∀ c ∈ front, Unicode.isWord c = false)
    (cs : List Char) : readParams (front ++ cs) = readParams cs := by
  induction front with
  | nil => rfl
  | cons c front ih =>
    obtain ⟨hc, hfront⟩ := List.forall_mem_cons.mp hfront
    rw [List.cons_append, readParams, if_neg (by simp [hc]), ih hfront]

theorem ltrim_append {gap : List Char} (hgap : IsGap gap) {cs : List Char}
    (hcs : ∀ c, cs.head? = some c → Text.isBlank c = false) : Text.ltrim (gap ++ cs) = cs :=
  Text.dropWhile_append_of_head (fun c hc => (hgap c hc).1) hcs

theorem isBare_eq_false_of_isBlank {c : Char} (hc : Text.isBlank c = true) : isBare c = false := by
  rw [isBare, hc]
  rfl

theorem Written.head_valueText {w : Written} (h : w.IsSound) (left : List Char) :
    ∃ c cs, w.valueText ++ left = c :: cs ∧ Text.isBlank c = false := by
  have hfits := h.body_fits
  unfold Written.valueText
  cases hquoted : w.isQuoted with
  | true => exact ⟨'"', _, rfl, by decide⟩
  | false =>
    rw [hquoted, if_neg Bool.false_ne_true] at hfits
    cases hbody : w.body with
    | nil => exact absurd hbody hfits.ne_nil
    | cons c cs =>
      refine ⟨c, cs ++ left, by simp, ?_⟩
      have hc := hfits.bare c (by rw [hbody]; exact List.mem_cons_self)
      by_contra hblank
      rw [isBare_eq_false_of_isBlank (by simpa using hblank)] at hc
      cases hc

/-- Where a name ends, a gap or the equal sign begins. -/
theorem isWord_head_behind_name {gap : List Char} (hgap : IsGap gap) (rest : List Char) {c : Char}
    (hc : (gap ++ '=' :: rest).head? = some c) : Unicode.isWord c = false := by
  cases gap with
  | nil =>
    rw [← Option.some.inj hc]
    decide
  | cons b bs =>
    rw [← Option.some.inj hc]
    exact (hgap b List.mem_cons_self).2

/-- Behind the equal sign and the gaps around it stands the value. -/
theorem afterEquals?_append {w : Written} (h : w.IsSound) (left : List Char) :
    afterEquals? (w.before ++ '=' :: (w.after ++ (w.valueText ++ left))) =
      some (w.valueText ++ left) := by
  obtain ⟨v, vs, hv, hblank⟩ := Written.head_valueText h left
  have hequals : Text.ltrim (w.before ++ '=' :: (w.after ++ (w.valueText ++ left))) =
      '=' :: (w.after ++ (w.valueText ++ left)) :=
    ltrim_append h.before_gap fun c hc => by
      rw [← Option.some.inj hc]
      decide
  have hvalue : Text.ltrim (w.after ++ (w.valueText ++ left)) = w.valueText ++ left :=
    ltrim_append h.after_gap fun c hc => by
      rw [hv] at hc
      rw [← Option.some.inj hc, hblank]
  simp only [afterEquals?, hequals, hvalue]

/-- A parameter is read as its name and its body. -/
theorem readParams_render_append {w : Written} (h : w.IsSound) {left : List Char}
    (hleft : ∀ c, left.head? = some c → isBare c = false) :
    readParams (w.render ++ left) = (w.name, w.body) :: readParams left := by
  cases hname : w.name with
  | nil => exact absurd hname h.name_ne_nil
  | cons c cs =>
    have hword : ∀ x ∈ c :: cs, Unicode.isWord x = true := fun x hx =>
      Unicode.isWord_of_isAsciiWord (h.name_word x (by rw [hname]; exact hx))
    obtain ⟨hc, hcs⟩ := List.forall_mem_cons.mp hword
    let behind := w.before ++ '=' :: (w.after ++ (w.valueText ++ left))
    have hrender : w.render ++ left = c :: (cs ++ behind) := by
      simp [Written.render, Written.valueText, hname, behind]
    have hread : (afterEquals? behind).bind readValue = some (w.body, left) := by
      rw [afterEquals?_append h, Option.bind_some, readValue_render h hleft]
    have hend : ∀ x, behind.head? = some x → Unicode.isWord x = false := fun x hx =>
      isWord_head_behind_name h.before_gap _ hx
    rw [hrender, readParams, if_pos hc, Text.takeWhile_append_of_head hcs hend,
      Text.dropWhile_append_of_head hcs hend]
    dsimp only
    split
    · next value rest heq =>
      rw [hread] at heq
      obtain ⟨rfl, rfl⟩ := Prod.mk.inj (Option.some.inj heq)
      rfl
    · next heq =>
      rw [hread] at heq
      cases heq

/-- Behind a parameter stands a gap or a comma, or what follows all parameters. -/
theorem isBare_head_renderParams {rest : List (List Char × List Char × Written)}
    (hrest : ∀ p ∈ rest, IsGap p.1) (left : List Char)
    (hleft : ∀ c, left.head? = some c → isBare c = false) {c : Char}
    (hc : (renderParams rest ++ left).head? = some c) : isBare c = false := by
  cases rest with
  | nil => exact hleft c hc
  | cons p rest =>
    obtain ⟨before, after, w⟩ := p
    have hbefore := hrest _ List.mem_cons_self
    cases before with
    | nil =>
      simp only [renderParams, List.nil_append, List.cons_append, List.head?_cons,
        Option.some.injEq] at hc
      rw [← hc]
      decide
    | cons b bs =>
      simp only [renderParams, List.cons_append, List.head?_cons, Option.some.injEq] at hc
      rw [← hc]
      exact isBare_eq_false_of_isBlank (hbefore b List.mem_cons_self).1

/-- Parameters are read one after the other, if each of them is read, under whichever name. -/
theorem readParams_renderParams_append (name : Written → List Char)
    {rest : List (List Char × List Char × Written)}
    (hgaps : ∀ p ∈ rest, IsGap p.1 ∧ IsGap p.2.1)
    (hread : ∀ p ∈ rest, ∀ left : List Char, (∀ c, left.head? = some c → isBare c = false) →
      readParams (p.2.2.render ++ left) = (name p.2.2, p.2.2.body) :: readParams left)
    (left : List Char) (hleft : ∀ c, left.head? = some c → isBare c = false) :
    readParams (renderParams rest ++ left) =
      (rest.map fun p => (name p.2.2, p.2.2.body)) ++ readParams left := by
  induction rest with
  | nil => rfl
  | cons p rest ih =>
    obtain ⟨before, after, w⟩ := p
    obtain ⟨⟨hbefore, hafter⟩, hgaps⟩ := List.forall_mem_cons.mp hgaps
    obtain ⟨hw, hread⟩ := List.forall_mem_cons.mp hread
    have hfront : ∀ c ∈ before ++ [','] ++ after, Unicode.isWord c = false := by
      intro c hc
      simp only [List.mem_append, List.mem_singleton] at hc
      rcases hc with (hc | rfl) | hc
      · exact (hbefore c hc).2
      · decide
      · exact (hafter c hc).2
    have hnext : ∀ c, (renderParams rest ++ left).head? = some c → isBare c = false := fun c hc =>
      isBare_head_renderParams (fun p hp => (hgaps p hp).1) left hleft hc
    rw [renderParams, List.append_assoc, List.append_assoc (before ++ [','] ++ after),
      readParams_skip hfront, hw _ hnext, ih hgaps hread]
    rfl

theorem readParams_renderParams {rest : List (List Char × List Char × Written)}
    (hrest : ∀ p ∈ rest, IsGap p.1 ∧ IsGap p.2.1 ∧ p.2.2.IsSound) :
    readParams (renderParams rest) = rest.map fun p => (p.2.2.name, p.2.2.body) := by
  have hall := readParams_renderParams_append Written.name
    (fun p hp => ⟨(hrest p hp).1, (hrest p hp).2.1⟩)
    (fun p hp _ hleft => readParams_render_append (hrest p hp).2.2 hleft) [] nofun
  simpa [readParams] using hall

theorem readParams_render {scheme blanks : List Char} {first : Written}
    {rest : List (List Char × List Char × Written)} (h : IsSound scheme blanks first rest) :
    readParams (first.render ++ renderParams rest) =
      (written first rest).map fun w => (w.name, w.body) := by
  have hend : ∀ c, (renderParams rest).head? = some c → isBare c = false := fun c hc =>
    isBare_head_renderParams (fun p hp => (h.rest_sound p hp).1) [] nofun
      (by rwa [List.append_nil])
  rw [readParams_render_append h.first_sound hend, readParams_renderParams h.rest_sound, written,
    List.map_cons, List.map_map]
  rfl

/-! ## The whole challenge -/

theorem getLast_valueText {w : Written} (h : w.IsSound) {c : Char}
    (hc : w.valueText.getLast? = some c) : Text.isBlank c = false := by
  have hfits := h.body_fits
  unfold Written.valueText at hc
  cases hquoted : w.isQuoted with
  | true =>
    rw [hquoted, if_pos rfl, List.getLast?_concat] at hc
    rw [← Option.some.inj hc]
    decide
  | false =>
    rw [hquoted, if_neg Bool.false_ne_true] at hfits hc
    have hbare := hfits.bare c (List.mem_of_getLast? hc)
    by_contra hblank
    rw [isBare_eq_false_of_isBlank (by simpa using hblank)] at hbare
    cases hbare

/-- A text that ends with a value does not end with a blank. -/
theorem getLast_append_valueText {w : Written} (h : w.IsSound) {front : List Char} {c : Char}
    (hc : (front ++ w.valueText).getLast? = some c) : Text.isBlank c = false := by
  rw [List.getLast?_append] at hc
  cases hlast : w.valueText.getLast? with
  | none =>
    obtain ⟨v, vs, hv, -⟩ := Written.head_valueText h []
    rw [List.append_nil] at hv
    rw [hv, List.getLast?_eq_none_iff] at hlast
    cases hlast
  | some d =>
    rw [hlast, Option.some_or] at hc
    rw [← Option.some.inj hc]
    exact getLast_valueText h hlast

/-- A written challenge ends with the value of one of its parameters. -/
theorem exists_render_append (first : Written) (rest : List (List Char × List Char × Written)) :
    ∃ (front : List Char) (w : Written), w ∈ written first rest ∧
      first.render ++ renderParams rest = front ++ w.valueText := by
  induction rest generalizing first with
  | nil =>
    refine ⟨first.name ++ first.before ++ ['='] ++ first.after, first, List.mem_cons_self, ?_⟩
    rw [renderParams, List.append_nil]
    rfl
  | cons p rest ih =>
    obtain ⟨before, after, w⟩ := p
    obtain ⟨front, last, hlast, heq⟩ := ih w
    refine ⟨first.render ++ (before ++ [','] ++ after) ++ front, last,
      List.mem_cons_of_mem _ hlast, ?_⟩
    rw [List.append_assoc, ← heq, renderParams, List.append_assoc (before ++ [','] ++ after)]
    simp only [List.append_assoc]

theorem IsSound.of_mem_written {scheme blanks : List Char} {first : Written}
    {rest : List (List Char × List Char × Written)} (h : IsSound scheme blanks first rest)
    {w : Written} (hw : w ∈ written first rest) : w.IsSound := by
  rcases List.mem_cons.mp hw with rfl | hw
  · exact h.first_sound
  · obtain ⟨p, hp, rfl⟩ := List.mem_map.mp hw
    exact (h.rest_sound p hp).2.2

/-- A text with a scheme in front and parameters behind is read as these, if the parameters are
sound and what is written for them ends with a value. -/
theorem parseChars_of_readParams {scheme blanks text : List Char} (hne : scheme ≠ [])
    (hsolid : ∀ c ∈ scheme, Text.isBlank c = false) (hblanks : blanks ≠ [])
    (hblank : ∀ c ∈ blanks, c = ' ')
    (hlast : ∀ c, text.getLast? = some c → Text.isBlank c = false) (htext : text ≠ [])
    {ws : List Written} (hws : ∀ w ∈ ws, w.IsSound)
    (hread : readParams text = ws.map fun w => (w.name, w.body)) :
    parseChars (scheme ++ blanks ++ text) =
      ⟨String.ofList (Unicode.lower scheme),
        ws.foldl (fun params w => setParam w.key w.value params) []⟩ := by
  have htrim : Text.trim (scheme ++ blanks ++ text) = scheme ++ blanks ++ text := by
    apply Text.trimBoth_eq_self
    · intro c hc
      obtain ⟨d, ds, rfl⟩ := List.exists_cons_of_ne_nil hne
      rw [List.cons_append, List.cons_append, List.head?_cons, Option.some.injEq] at hc
      exact hsolid c (by rw [← hc]; exact List.mem_cons_self)
    · intro c hc
      rw [List.getLast?_append_of_ne_nil _ htext] at hc
      exact hlast c hc
  obtain ⟨b, bs, rfl⟩ := List.exists_cons_of_ne_nil hblanks
  obtain ⟨rfl, hbs⟩ := List.forall_mem_cons.mp hblank
  have hspace : ∀ c ∈ scheme, decide (c = ' ') = false := by
    intro c hc
    have := hsolid c hc
    rw [decide_eq_false_iff_not]
    rintro rfl
    revert this
    decide
  have hcut : Text.cut? (· = ' ') (Text.trim (scheme ++ ' ' :: bs ++ text)) =
      some (scheme, bs ++ text) := by
    rw [htrim, List.append_assoc, List.cons_append]
    exact Text.cut?_append hspace (decide_eq_true rfl) _
  have hskip : ∀ c ∈ bs, Unicode.isWord c = false := by
    intro c hc
    rw [hbs c hc]
    decide
  unfold parseChars
  rw [hcut]
  dsimp only
  rw [readParams_skip hskip, hread, List.foldl_map]
  congr 1
  refine List.foldl_ext _ _ _ fun params w hw => ?_
  rw [Unicode.lower_eq_map_toLower fun c hc =>
    Unicode.toNat_lt_of_isAsciiWord ((hws w hw).name_word c hc)]
  rfl

/-- **A written challenge is read back**: the scheme in lower case, and every parameter set
under its name in lower case. -/
theorem parseChars_render {scheme blanks : List Char} {first : Written}
    {rest : List (List Char × List Char × Written)} (h : IsSound scheme blanks first rest) :
    parseChars (render scheme blanks first rest) =
      ⟨String.ofList (Unicode.lower scheme),
        (written first rest).foldl (fun params w => setParam w.key w.value params) []⟩ := by
  have hsound : ∀ w ∈ written first rest, w.IsSound := fun w => h.of_mem_written
  obtain ⟨front, w, hw, htext⟩ := exists_render_append first rest
  rw [render, List.append_assoc]
  refine parseChars_of_readParams h.scheme_ne_nil h.scheme_solid h.blanks_ne_nil h.blanks_eq ?_ ?_
    hsound (readParams_render h)
  · rw [htext]
    exact fun c hc => getLast_append_valueText (hsound w hw) hc
  · rw [htext]
    obtain ⟨v, vs, hv, -⟩ := Written.head_valueText (hsound w hw) []
    rw [List.append_nil] at hv
    rw [hv]
    simp

/-! ## What stands under a name -/

theorem lookup_setParam_self (key value : String) (params : List (String × String)) :
    (setParam key value params).lookup key = some value := by
  induction params with
  | nil => simp [setParam]
  | cons p params ih =>
    obtain ⟨k, v⟩ := p
    rw [setParam]
    split
    · next hk => simp [hk]
    · next hk =>
      rw [List.lookup_cons, beq_eq_false_iff_ne.mpr (Ne.symm hk)]
      exact ih

theorem lookup_setParam_of_ne {key other : String} (hne : other ≠ key) (value : String)
    (params : List (String × String)) :
    (setParam key value params).lookup other = params.lookup other := by
  induction params with
  | nil => simp [setParam, List.lookup_cons, beq_eq_false_iff_ne.mpr hne]
  | cons p params ih =>
    obtain ⟨k, v⟩ := p
    rw [setParam]
    split
    · next hk =>
      rw [List.lookup_cons, List.lookup_cons, hk, beq_eq_false_iff_ne.mpr hne]
    · rw [List.lookup_cons, List.lookup_cons, ih]

/-- Under a name stands what the last parameter of that name says, or what stood there
before. -/
theorem lookup_foldl_setParam (key : String) (ws : List Written) :
    ∀ params : List (String × String),
      (ws.foldl (fun params w => setParam w.key w.value params) params).lookup key =
        ((ws.filter fun w => w.key = key).getLast?.map Written.value).or (params.lookup key) := by
  induction ws with
  | nil => intro params; rfl
  | cons w ws ih =>
    intro params
    rw [List.foldl_cons, ih]
    by_cases hw : w.key = key
    · rw [List.filter_cons_of_pos (by simpa using hw), ← hw, lookup_setParam_self]
      cases hlast : (ws.filter fun x => x.key = w.key).getLast? with
      | none =>
        rw [List.getLast?_eq_none_iff] at hlast
        simp [hlast]
      | some last => simp [List.getLast?_cons, hlast]
    · rw [List.filter_cons_of_neg (by simpa using hw),
        lookup_setParam_of_ne fun heq => hw heq.symm]

/-- Under a name stands the body of its last parameter. -/
theorem param?_parseChars_render {scheme blanks : List Char} {first : Written}
    {rest : List (List Char × List Char × Written)} (h : IsSound scheme blanks first rest)
    (key : String) :
    (parseChars (render scheme blanks first rest)).param? key =
      ((written first rest).filter fun w => w.key = key).getLast?.map Written.value := by
  rw [parseChars_render h, param?, lookup_foldl_setParam]
  simp

/-- A body without a quote and without a backslash is its own value. -/
theorem unescape_eq_self {body : List Char} (hslash : '\\' ∉ body) : unescape body = body := by
  induction body with
  | nil => rfl
  | cons c cs ih =>
    obtain ⟨hc, hcs⟩ := not_or.mp (fun h => hslash (List.mem_cons.mpr h))
    rw [unescape, ih hcs]
    rintro ds rfl
    exact absurd rfl hc

end Challenge
end RegistryAuth
