import Mathlib.Data.List.DropRight
import RegistryAuth.Proofs.Challenge.Written
import RegistryAuth.Proofs.Transport.Conversation
import RegistryAuth.Proofs.Transport.Run

/-!
# Several challenges in one header

A registry may state several challenges, and the headers that carry them are joined by commas.
`Challenge.parse` reads such a header as one challenge: the scheme is that of the first, and the
parameters are those of all of them, so that a later one takes the place of an earlier one of its
name (`Challenge.challenge_of_listed`).  A name that holds a sign is heard from behind that sign on
(`Challenge.wordEnd`), so that `x-realm` is heard as `realm`.  The realm at which a token is
fetched may thus be one that the answered challenge does not name
(`Challenge.reaction_of_later_realm`).

## Why names have to end in a letter

Where the name of a parameter ends in a sign, nothing of it is heard, and what stands in its
value is read for parameters, quotes or not.  All other names are covered.

## Why the end of a name

The reader looks for a letter, a digit or an underscore, goes on to the end of the run, and needs an
equal sign there.  A text without an equal sign, whose last character belongs to no run, is passed
over as a whole (`readParams_pass`): that does for the front of a name, up to its last sign, and
for the scheme of a later challenge with the blanks behind it.
-/

namespace RegistryAuth
namespace Challenge

/-! ## What is passed over -/

/-- No equal sign comes next, if none stands in front of a text that does not begin with one. -/
theorem afterEquals?_append_eq_none {front cs : List Char} (hfront : '=' ∉ front)
    (hcs : afterEquals? cs = none) : afterEquals? (front ++ cs) = none := by
  induction front with
  | nil => exact hcs
  | cons c front ih =>
    obtain ⟨hc, hfront⟩ := not_or.mp (mt List.mem_cons.mpr hfront)
    rw [afterEquals?, Text.ltrim, List.cons_append]
    cases hblank : Text.isBlank c with
    | true =>
      rw [List.dropWhile_cons_of_pos hblank]
      exact ih hfront
    | false =>
      rw [List.dropWhile_cons_of_neg (by simp [hblank])]
      split
      · next heq => exact absurd (List.cons.inj heq).1.symm hc
      · rfl

/-- A text that ends outside of a name leaves the run at its front. -/
theorem exists_run {front : List Char} (hne : front ≠ [])
    (hlast : ∀ c, front.getLast? = some c → Unicode.isWord c = false) :
    ∃ run c behind, front = run ++ c :: behind ∧ (∀ x ∈ run, Unicode.isWord x = true) ∧
      Unicode.isWord c = false := by
  have hsplit := List.takeWhile_append_dropWhile (p := Unicode.isWord) (l := front)
  cases hdrop : front.dropWhile Unicode.isWord with
  | nil =>
    have hword := List.dropWhile_eq_nil_iff.mp hdrop _ (List.getLast_mem hne)
    rw [hlast _ (List.getLast?_eq_some_getLast hne)] at hword
    cases hword
  | cons c behind =>
    refine ⟨_, c, behind, by rw [← hdrop, hsplit], fun x hx => List.mem_takeWhile_imp hx, ?_⟩
    have hhead := List.head?_dropWhile_not Unicode.isWord front
    rw [hdrop] at hhead
    simpa using hhead

/-- A text that ends outside of a name and holds no equal sign is passed over. -/
theorem readParams_pass {front cs : List Char} (hequals : '=' ∉ front)
    (hlast : ∀ c, front.getLast? = some c → Unicode.isWord c = false)
    (hcs : afterEquals? cs = none) : readParams (front ++ cs) = readParams cs := by
  induction hn : front.length using Nat.strong_induction_on generalizing front with
  | _ n ih =>
    cases front with
    | nil => rfl
    | cons c front =>
      have hrest : '=' ∉ front := fun h => hequals (List.mem_cons_of_mem c h)
      have hback : ∀ d, front.getLast? = some d → Unicode.isWord d = false := fun d hd =>
        hlast d (by rw [List.getLast?_cons, hd]; rfl)
      rw [List.length_cons] at hn
      rw [List.cons_append, readParams]
      split
      · next hc =>
        -- the run ends within the text, and no equal sign follows it
        have hne : front ≠ [] := by
          rintro rfl
          rw [hlast c rfl] at hc
          cases hc
        obtain ⟨run, b, behind, rfl, hrun, hb⟩ := exists_run hne hback
        have hend : ∀ x, (b :: (behind ++ cs)).head? = some x → Unicode.isWord x = false := by
          rintro x hx
          rw [← Option.some.inj hx]
          exact hb
        have hequals' : '=' ∉ b :: behind := fun h => hrest (List.mem_append_right run h)
        have hnone : afterEquals? (b :: (behind ++ cs)) = none :=
          afterEquals?_append_eq_none hequals' hcs
        rw [List.append_assoc, List.cons_append, Text.takeWhile_append_of_head hrun hend,
          Text.dropWhile_append_of_head hrun hend]
        dsimp only
        split
        · next heq =>
          rw [hnone] at heq
          cases heq
        · refine ih (b :: behind).length ?_ hequals' (fun d hd => hback d ?_) rfl
          · simp only [List.length_append, List.length_cons] at hn ⊢
            omega
          · rw [List.getLast?_append_of_ne_nil _ (List.cons_ne_nil _ _), hd]
      · exact ih front.length (by omega) hrest hback rfl

/-! ## Names that hold signs -/

/-- Whether `c` may stand in a name or a scheme. -/
def isToken (c : Char) : Bool := c.isAlphanum || "!#$%&'*+-.^_`|~".toList.contains c

/-- The end of a name, from behind its last sign on. -/
def wordEnd (name : List Char) : List Char := name.rtakeWhile Unicode.isAsciiWord

/-- The front of a name, up to its last sign. -/
def signFront (name : List Char) : List Char := name.rdropWhile Unicode.isAsciiWord

theorem signFront_append_wordEnd (name : List Char) : signFront name ++ wordEnd name = name :=
  List.rdropWhile_append_rtakeWhile

theorem mem_of_mem_wordEnd {name : List Char} {c : Char} (hc : c ∈ wordEnd name) : c ∈ name :=
  (List.rtakeWhile_suffix _ _).subset hc

theorem mem_of_mem_signFront {name : List Char} {c : Char} (hc : c ∈ signFront name) : c ∈ name :=
  (List.rdropWhile_prefix _ _).subset hc

theorem of_isToken {c : Char} (hc : isToken c = true) :
    c.toNat < 128 ∧ c ≠ '=' ∧ Text.isBlank c = false := by
  have hascii : c.toNat < 128 := by
    rw [isToken, Bool.or_eq_true] at hc
    rcases hc with hc | hc
    · exact Unicode.toNat_lt_of_isAsciiWord (by rw [Unicode.isAsciiWord, hc]; rfl)
    · exact List.all_iff_forall_prop.mp (by decide :
        "!#$%&'*+-.^_`|~".toList.all fun c => decide (c.toNat < 128)) c (by simpa using hc)
  refine ⟨hascii, ?_⟩
  exact Char.forall_ascii (P := fun c => isToken c = true → c ≠ '=' ∧ Text.isBlank c = false)
    (by decide +kernel) hascii hc

namespace Written

/-- The parameter as it is heard. -/
def heard (w : Written) : Written := { w with name := wordEnd w.name }

/-- The parameter is one by the rules, and its name may hold signs, but not at its end. -/
structure IsListed (w : Written) : Prop where
  name_token : ∀ c ∈ w.name, isToken c = true
  end_ne_nil : wordEnd w.name ≠ []
  before_gap : IsGap w.before
  after_gap : IsGap w.after
  body_fits : if w.isQuoted then IsQuotable w.body else IsPlain w.body

theorem IsListed.name_ne_nil {w : Written} (h : w.IsListed) : w.name ≠ [] := by
  intro hname
  apply h.end_ne_nil
  rw [hname]
  rfl

theorem IsListed.heard_isSound {w : Written} (h : w.IsListed) : w.heard.IsSound where
  name_ne_nil := h.end_ne_nil
  name_word _ hc := List.mem_rtakeWhile_imp hc
  before_gap := h.before_gap
  after_gap := h.after_gap
  body_fits := h.body_fits

/-- A name in letters, digits and underscores is heard as it is. -/
theorem IsSound.heard_eq {w : Written} (h : w.IsSound) : w.heard = w := by
  rw [heard, wordEnd, List.rtakeWhile_eq_self_iff.mpr h.name_word]

end Written

/-- No equal sign comes next where a name does. -/
theorem afterEquals?_render {w : Written} (hne : w.name ≠ [])
    (htoken : ∀ c ∈ w.name, isToken c = true) (left : List Char) :
    afterEquals? (w.render ++ left) = none := by
  obtain ⟨c, cs, hname⟩ := List.exists_cons_of_ne_nil hne
  obtain ⟨-, hequals, hblank⟩ := of_isToken (htoken c (by rw [hname]; exact List.mem_cons_self))
  obtain ⟨tail, htail⟩ : ∃ tail, w.render ++ left = c :: tail :=
    ⟨_, by rw [Written.render, hname]; rfl⟩
  rw [htail, afterEquals?, Text.ltrim, List.dropWhile_cons_of_neg (by simp [hblank])]
  split
  · next heq => exact absurd (List.cons.inj heq).1 hequals
  · rfl

/-- A parameter is heard under the end of its name. -/
theorem readParams_listed {w : Written} (h : w.IsListed) {left : List Char}
    (hleft : ∀ c, left.head? = some c → isBare c = false) :
    readParams (w.render ++ left) = (wordEnd w.name, w.body) :: readParams left := by
  have hrender : w.render = signFront w.name ++ w.heard.render := by
    have hname := signFront_append_wordEnd w.name
    simp only [Written.render, Written.heard, ← List.append_assoc, hname]
    rfl
  have hequals : '=' ∉ signFront w.name := fun hmem =>
    (of_isToken (h.name_token '=' (mem_of_mem_signFront hmem))).2.1 rfl
  have hlast : ∀ c, (signFront w.name).getLast? = some c → Unicode.isWord c = false := by
    intro c hc
    have hmem := mem_of_mem_signFront (List.mem_of_getLast? hc)
    have hne := List.ne_nil_of_mem (List.mem_of_getLast? hc)
    have hnot := List.rdropWhile_last_not Unicode.isAsciiWord w.name hne
    rw [List.getLast?_eq_some_getLast hne] at hc
    rw [Unicode.isWord, if_pos (of_isToken (h.name_token c hmem)).1, ← Option.some.inj hc]
    exact Bool.eq_false_iff.mpr hnot
  rw [hrender, List.append_assoc, readParams_pass hequals hlast
    (afterEquals?_render h.end_ne_nil (fun c hc => h.name_token c (mem_of_mem_wordEnd hc)) left),
    readParams_render_append h.heard_isSound hleft]
  rfl

/-! ## Challenges behind each other -/

/-- A challenge as it is stated: the scheme, the blanks behind it, and the parameters. -/
structure Stated where
  scheme : List Char
  blanks : List Char
  first : Written
  rest : List (List Char × List Char × Written)
  deriving Repr, DecidableEq

namespace Stated

/-- The text of the parameters. -/
def paramsText (d : Stated) : List Char := d.first.render ++ renderParams d.rest

/-- The text of the challenge. -/
def text (d : Stated) : List Char := d.scheme ++ d.blanks ++ d.paramsText

/-- All parameters of the challenge. -/
def params (d : Stated) : List Written := written d.first d.rest

/-- The challenge is one by the rules, and no name of a parameter ends in a sign. -/
structure IsListed (d : Stated) : Prop where
  scheme_ne_nil : d.scheme ≠ []
  scheme_token : ∀ c ∈ d.scheme, isToken c = true
  blanks_ne_nil : d.blanks ≠ []
  blanks_eq : ∀ c ∈ d.blanks, c = ' '
  params_listed : ∀ w ∈ d.params, w.IsListed
  gaps : ∀ p ∈ d.rest, IsGap p.1 ∧ IsGap p.2.1

/-- What is heard of the challenge. -/
def heard (d : Stated) : List Written := d.params.map Written.heard

/-- A challenge whose names are words is heard as it is. -/
theorem heard_eq_params {d : Stated} (h : ∀ w ∈ d.params, w.IsSound) : d.heard = d.params :=
  (List.map_congr_left fun w hw => (h w hw).heard_eq).trans (List.map_id _)

theorem IsListed.isSound_of_mem_heard {d : Stated} (h : d.IsListed) {w : Written}
    (hw : w ∈ d.heard) : w.IsSound := by
  obtain ⟨v, hv, rfl⟩ := List.mem_map.mp hw
  exact (h.params_listed v hv).heard_isSound

/-- The text of the parameters ends with a value. -/
theorem IsListed.exists_paramsText {d : Stated} (h : d.IsListed) :
    ∃ (front : List Char) (w : Written), w.IsSound ∧ d.paramsText = front ++ w.valueText := by
  obtain ⟨front, w, hw, htext⟩ := exists_render_append d.first d.rest
  exact ⟨front, w.heard, (h.params_listed w hw).heard_isSound, htext⟩

/-- No equal sign comes next where parameters do. -/
theorem IsListed.afterEquals?_paramsText {d : Stated} (h : d.IsListed) (left : List Char) :
    afterEquals? (d.paramsText ++ left) = none := by
  rw [paramsText, List.append_assoc]
  have hfirst := h.params_listed _ List.mem_cons_self
  exact afterEquals?_render hfirst.name_ne_nil hfirst.name_token _

/-- The parameters of a challenge are heard one by one. -/
theorem IsListed.readParams_paramsText {d : Stated} (h : d.IsListed) {left : List Char}
    (hleft : ∀ c, left.head? = some c → isBare c = false) :
    readParams (d.paramsText ++ left) =
      (d.heard.map fun w => (w.name, w.body)) ++ readParams left := by
  obtain ⟨hfirst, hrest⟩ := List.forall_mem_cons.mp h.params_listed
  have hnext : ∀ c, (renderParams d.rest ++ left).head? = some c → isBare c = false := fun c hc =>
    isBare_head_renderParams (fun p hp => (h.gaps p hp).1) left hleft hc
  rw [paramsText, List.append_assoc, readParams_listed hfirst hnext,
    readParams_renderParams_append (fun w => wordEnd w.name) h.gaps
      (fun p hp _ => readParams_listed (hrest _ (List.mem_map_of_mem hp))) left hleft,
    heard, params, written]
  simp only [List.map_cons, List.map_map, List.cons_append]
  rfl

/-- The texts of challenges behind the first, each behind a comma. -/
def textBehind (ds : List Stated) : List Char := ds.flatMap fun d => ',' :: ' ' :: d.text

theorem isBare_head_textBehind (ds : List Stated) :
    ∀ c, (textBehind ds).head? = some c → isBare c = false := by
  intro c hc
  cases ds with
  | nil => cases hc
  | cons d ds =>
    rw [← Option.some.inj hc]
    decide

/-- The scheme of a challenge behind the first is passed over, and its parameters are heard. -/
theorem readParams_textBehind {ds : List Stated} (hds : ∀ d ∈ ds, d.IsListed) :
    readParams (textBehind ds) = (ds.flatMap heard).map fun w => (w.name, w.body) := by
  induction ds with
  | nil => simp [textBehind, readParams]
  | cons d ds ih =>
    obtain ⟨hd, hds⟩ := List.forall_mem_cons.mp hds
    have htext : textBehind (d :: ds) =
        (',' :: ' ' :: (d.scheme ++ d.blanks)) ++ (d.paramsText ++ textBehind ds) := by
      simp [textBehind, text]
    have hequals : '=' ∉ ',' :: ' ' :: (d.scheme ++ d.blanks) := by
      intro hmem
      simp only [List.mem_cons, List.mem_append] at hmem
      rcases hmem with hmem | hmem | hmem | hmem
      · exact absurd hmem (by decide)
      · exact absurd hmem (by decide)
      · exact (of_isToken (hd.scheme_token _ hmem)).2.1 rfl
      · exact absurd (hd.blanks_eq _ hmem) (by decide)
    have hlast : ∀ c, (',' :: ' ' :: (d.scheme ++ d.blanks)).getLast? = some c →
        Unicode.isWord c = false := by
      intro c hc
      have hmem : c ∈ d.blanks := by
        rw [← List.cons_append, ← List.cons_append,
          List.getLast?_append_of_ne_nil _ hd.blanks_ne_nil] at hc
        exact List.mem_of_getLast? hc
      rw [hd.blanks_eq c hmem]
      decide
    rw [htext, readParams_pass hequals hlast (hd.afterEquals?_paramsText _),
      hd.readParams_paramsText (isBare_head_textBehind ds), ih hds, List.flatMap_cons,
      List.map_append]

/-- Several challenges end with a value. -/
theorem exists_textBehind {d : Stated} (hd : d.IsListed) {ds : List Stated}
    (hds : ∀ e ∈ ds, e.IsListed) :
    ∃ (front : List Char) (w : Written), w.IsSound ∧
      d.paramsText ++ textBehind ds = front ++ w.valueText := by
  induction ds generalizing d with
  | nil =>
    obtain ⟨front, w, hw, htext⟩ := hd.exists_paramsText
    exact ⟨front, w, hw, by simpa [textBehind] using htext⟩
  | cons e ds ih =>
    obtain ⟨he, hds⟩ := List.forall_mem_cons.mp hds
    obtain ⟨front, w, hw, htext⟩ := ih he hds
    refine ⟨d.paramsText ++ ',' :: ' ' :: (e.scheme ++ e.blanks) ++ front, w, hw, ?_⟩
    rw [List.append_assoc, ← htext]
    simp [textBehind, text]

/-- What is read of several challenges: the scheme of the first, and the parameters of all. -/
theorem parseChars_text_append {d : Stated} (hd : d.IsListed) {ds : List Stated}
    (hds : ∀ e ∈ ds, e.IsListed) :
    parseChars (d.text ++ textBehind ds) =
      ⟨String.ofList (Unicode.lower d.scheme),
        ((d :: ds).flatMap heard).foldl (fun params w => setParam w.key w.value params) []⟩ := by
  have hsound : ∀ w ∈ (d :: ds).flatMap heard, w.IsSound := by
    intro w hw
    obtain ⟨e, he, hw⟩ := List.mem_flatMap.mp hw
    exact (List.forall_mem_cons.mpr ⟨hd, hds⟩ e he).isSound_of_mem_heard hw
  have hread : readParams (d.paramsText ++ textBehind ds) =
      ((d :: ds).flatMap heard).map fun w => (w.name, w.body) := by
    rw [hd.readParams_paramsText (isBare_head_textBehind ds), readParams_textBehind hds,
      List.flatMap_cons, List.map_append]
  obtain ⟨front, w, hw, htext⟩ := exists_textBehind hd hds
  rw [text, List.append_assoc]
  refine parseChars_of_readParams hd.scheme_ne_nil
    (fun c hc => (of_isToken (hd.scheme_token c hc)).2.2) hd.blanks_ne_nil hd.blanks_eq ?_ ?_
    hsound hread
  · rw [htext]
    exact fun c hc => getLast_append_valueText hw hc
  · rw [htext]
    obtain ⟨v, vs, hv, -⟩ := Written.head_valueText hw []
    rw [List.append_nil] at hv
    rw [hv]
    simp

/-- Texts that are joined by commas are the first with the others behind it. -/
theorem intercalate_text (d : Stated) (ds : List Stated) :
    List.intercalate ", ".toList ((d :: ds).map text) = d.text ++ textBehind ds := by
  induction ds generalizing d with
  | nil => simp [textBehind]
  | cons e ds ih =>
    rw [List.map_cons, List.map_cons, List.intercalate_cons_cons, ← List.map_cons, ih]
    simp [textBehind]

end Stated

/-- **Several challenges in one header are read as one**, with the scheme of the first and the
parameters of all, each heard under the end of its name.  Under a name stands the last value that
is heard there, and if the scheme asks for a token, the transport fetches it at the last realm.
Where no later challenge is heard to use a name, and the first has no signs in its names, that is
the value that the first states. -/
theorem challenge_of_listed {d : Stated} {ds : List Stated} (h : ∀ e ∈ d :: ds, e.IsListed)
    {response : Response} (hstatus : response.status = 401)
    (hvalues : Headers.under AuthTransport.challengeHeader response.headers =
      (d :: ds).map fun e => String.ofList e.text) :
    let heard := (d :: ds).flatMap Stated.heard
    let value? (key : String) := (heard.filter fun w => w.key = key).getLast?.map Written.value
    ∃ challenge, AuthTransport.challenge? response = some challenge ∧
      challenge = ⟨String.ofList (d.scheme.map Char.toLower),
        heard.foldl (fun params w => setParam w.key w.value params) []⟩ ∧
      (∀ key, challenge.param? key = value? key) ∧
      (d.scheme.map Char.toLower = "bearer".toList → ∀ (t : AuthTransport) (realm : String),
        t.reaction response = .exchange realm challenge ↔ value? "realm" = some realm) ∧
      ∀ key, (∀ w ∈ d.params, w.IsSound) → (∀ e ∈ ds, ∀ w ∈ e.heard, w.key ≠ key) →
        value? key = (d.params.filter fun w => w.key = key).getLast?.map Written.value := by
  intro heard value?
  have hlower : Unicode.lower d.scheme = d.scheme.map Char.toLower :=
    Unicode.lower_eq_map_toLower fun c hc =>
      (of_isToken ((h d List.mem_cons_self).scheme_token c hc)).1
  have hheader : response.header? AuthTransport.challengeHeader =
      some (String.intercalate ", " ((d :: ds).map fun e => String.ofList e.text)) := by
    rw [Response.header?, hvalues]
    rfl
  obtain ⟨hd, hds⟩ := List.forall_mem_cons.mp h
  have hparse : parse (String.intercalate ", " ((d :: ds).map fun e => String.ofList e.text)) =
      ⟨String.ofList (d.scheme.map Char.toLower),
        heard.foldl (fun params w => setParam w.key w.value params) []⟩ := by
    have htexts : ((d :: ds).map fun e => String.ofList e.text).map String.toList =
        (d :: ds).map Stated.text := by
      simp
    rw [parse, String.toList_intercalate, htexts, Stated.intercalate_text,
      Stated.parseChars_text_append hd hds, hlower]
  have hparam (key : String) : (parse (String.intercalate ", "
      ((d :: ds).map fun e => String.ofList e.text))).param? key = value? key := by
    rw [hparse, param?, lookup_foldl_setParam]
    simp [value?]
  refine ⟨_, AuthTransport.challenge?_eq_some_iff.mpr ⟨hstatus, _, hheader, rfl⟩, hparse, hparam,
    fun hbearer t realm => ?_, fun key hsound hlater => ?_⟩
  · rw [AuthTransport.reaction_eq_exchange_iff, Response.AsksToken, hparam]
    refine ⟨fun hasks => hasks.2.2, fun hrealm => ⟨⟨hstatus, _, hheader, rfl⟩, ?_, hrealm⟩⟩
    rw [hparse, hbearer]
    rfl
  · have hnone : (ds.flatMap Stated.heard).filter (fun w => w.key = key) = [] := by
      rw [List.filter_eq_nil_iff]
      intro w hw
      obtain ⟨e, he, hw⟩ := List.mem_flatMap.mp hw
      simpa using hlater e he w hw
    simp only [value?, heard, List.flatMap_cons, List.filter_append, hnone, List.append_nil,
      Stated.heard_eq_params hsound]

/-- A challenge with one parameter, in quotes. -/
def Stated.single (scheme name value : String) : Stated :=
  ⟨scheme.toList, [' '], ⟨name.toList, [], [], true, value.toList⟩, []⟩

theorem Stated.isListed_single {scheme name value : String} (hne : scheme.toList ≠ [])
    (hscheme : scheme.toList.all isToken = true) (hname : name.toList.all isToken = true)
    (hend : wordEnd name.toList ≠ []) (hquote : '"' ∉ value.toList) (hslash : '\\' ∉ value.toList) :
    (single scheme name value).IsListed where
  scheme_ne_nil := hne
  scheme_token := List.all_eq_true.mp hscheme
  blanks_ne_nil := List.cons_ne_nil _ _
  blanks_eq := List.forall_mem_singleton.mpr rfl
  params_listed := List.forall_mem_singleton.mpr {
    name_token := List.all_eq_true.mp hname
    end_ne_nil := hend
    before_gap := List.forall_mem_nil _
    after_gap := List.forall_mem_nil _
    body_fits := isQuotable_of_not_mem hquote hslash }
  gaps := List.forall_mem_nil _

/-- A registry offers a token and a password. -/
theorem challenge_of_listed_two_schemes :
    let d := Stated.single "Bearer" "realm" "https://auth.example.com/token"
    let e := Stated.single "Basic" "realm" "registry"
    let response : Response :=
      ⟨401, [("WWW-Authenticate", "Bearer realm=\"https://auth.example.com/token\""),
        ("WWW-Authenticate", "Basic realm=\"registry\"")], .ok []⟩
    (∀ c ∈ [d, e], c.IsListed) ∧
      Headers.under AuthTransport.challengeHeader response.headers =
        [d, e].map (fun c => String.ofList c.text) ∧
      ∃ challenge, AuthTransport.challenge? response = some challenge ∧
        challenge.param? "realm" = some "registry" := by
  intro d e response
  have hlisted : ∀ c ∈ [d, e], c.IsListed := List.forall_mem_cons.mpr
    ⟨Stated.isListed_single (by decide) (by decide) (by decide) (by decide) (by decide) (by decide),
      List.forall_mem_singleton.mpr (Stated.isListed_single (by decide) (by decide) (by decide)
        (by decide) (by decide) (by decide))⟩
  have hvalues : Headers.under AuthTransport.challengeHeader response.headers =
      [d, e].map fun c => String.ofList c.text := by decide +kernel
  obtain ⟨challenge, hchallenge, -, hparam, -, -⟩ := challenge_of_listed hlisted rfl hvalues
  refine ⟨hlisted, hvalues, challenge, hchallenge, (hparam "realm").trans ?_⟩
  decide +kernel

/-- The realm at which the token is fetched is that of the later challenge, though the earlier one
is answered; and so it is if the realm stands under a longer name. -/
theorem reaction_of_later_realm :
    let response : Response :=
      ⟨401, [("WWW-Authenticate", "Bearer realm=\"https://auth.example.com/token\""),
        ("WWW-Authenticate", "Basic realm=\"registry\"")], .ok []⟩
    (AuthTransport.sample (.password "u" "p" "")).reaction response =
        .exchange "registry" ⟨"bearer", [("realm", "registry")]⟩ ∧
      parse "Bearer realm=\"https://auth.example.com/token\",x-realm=\"registry\"" =
        ⟨"bearer", [("realm", "registry")]⟩ := by
  decide +kernel

end Challenge
end RegistryAuth
