import RegistryAuth.Proofs.Text.Cut
import RegistryAuth.Proofs.Yaml.Reading

/-!
# Documents that break off at their front

A document breaks off at its first token if that is a directive whose version has too many digits
(`Graph.ofText_of_version`), or a text in double quotes that writes a character by a number beyond
all characters (`Graph.ofText_of_escape`).  What follows is not looked at, but for whether its
characters may stand in a text.
-/

namespace RegistryAuth
namespace Yaml

variable {p : Cursor} {cs rest : List Char}

/-! ## Places -/

namespace Cursor

theorem peek_of_rest {c : Char} (h : p.rest = c :: cs) : p.peek = c := by
  rw [peek, h]
  rfl

/-- A run of characters is taken up to the first that is not accepted. -/
theorem span_of_rest {accepts : Char → Bool} {run : List Char} (h : p.rest = run ++ rest)
    (hrun : ∀ c ∈ run, accepts c = true) (hrest : ∀ c, rest.head? = some c → accepts c = false) :
    p.span accepts = (run, p.skip run.length) := by
  have htake : p.rest.takeWhile accepts = run := by
    rw [h, Text.takeWhile_append_of_head hrun hrest]
  rw [span, htake]

end Cursor

/-! ## A version in a directive -/

theorem readVersionNumber_of_long {ds : List Char} (h : p.rest = ds ++ rest)
    (hds : ∀ d ∈ ds, d.isDigit = true) (hrest : ∀ c, rest.head? = some c → c.isDigit = false)
    (long : Number.maxDigits < ds.length) :
    readVersionNumber p = .error (.scalar (.number (.tooLong ds.length))) := by
  have hne : ds ≠ [] := by
    rintro rfl
    exact absurd long (by decide)
  have hwhole : Number.whole 10 ds = .error (.tooLong ds.length) := by
    rw [Number.whole_eq_ofDigits hds hne, if_pos long]
  rw [readVersionNumber, Cursor.span_of_rest h hds hrest]
  simp only [List.isEmpty_iff, if_neg hne, hwhole]
  rfl

theorem readDirective_of_version {blanks ds : List Char}
    (h : p.rest = ['Y', 'A', 'M', 'L'] ++ ' ' :: (blanks ++ (ds ++ rest)))
    (hblanks : ∀ c ∈ blanks, c = ' ') (hds : ∀ d ∈ ds, d.isDigit = true)
    (hrest : ∀ c, rest.head? = some c → c.isDigit = false) (long : Number.maxDigits < ds.length) :
    readDirective p = .error (.scalar (.number (.tooLong ds.length))) := by
  obtain ⟨q, hname, hq⟩ : ∃ q, p.span isNameChar = (['Y', 'A', 'M', 'L'], q) ∧
      q.rest = ' ' :: (blanks ++ (ds ++ rest)) := by
    refine ⟨_, Cursor.span_of_rest h (List.all_eq_true.mp rfl) ?_, ?_⟩
    · rintro c ⟨⟩
      decide
    · rw [Cursor.skip_rest, h]
      rfl
  have hdigits : (q.skipWhile (· = ' ')).rest = ds ++ rest := by
    obtain ⟨d, ds, rfl⟩ : ∃ d ds', ds = d :: ds' :=
      List.exists_cons_of_ne_nil (by rintro rfl; exact absurd long (by decide))
    have hspan : q.span (· = ' ') = (' ' :: blanks, q.skip (' ' :: blanks).length) := by
      refine Cursor.span_of_rest hq (fun c hc => ?_) ?_
      · exact decide_eq_true ((List.mem_cons.mp hc).elim id (hblanks c))
      · rintro c ⟨⟩
        refine decide_eq_false ?_
        rintro rfl
        exact absurd (hds _ List.mem_cons_self) (by decide)
    rw [Cursor.skipWhile, hspan, Cursor.skip_rest, hq, List.length_cons, List.drop_succ_cons,
      List.drop_left]
  have hread : readName .directive p = .ok (['Y', 'A', 'M', 'L'], q) := by
    rw [readName, hname]
    exact if_neg (by decide)
  have hgap : isGap ' ' = true := by decide
  rw [readDirective, hread]
  simp only [bind, Except.bind, Cursor.peek_of_rest hq, hgap, Bool.not_true, Bool.false_eq_true,
    if_false]
  rw [if_pos trivial, readVersionNumber_of_long hdigits hds hrest long]

/-! ## A character in quotes -/

/-- What is wrong with the number of a character that is beyond all characters. -/
def rangeFault (n : Nat) : ScalarFault :=
  if 0x80000000 ≤ n then .characterSize else .characterRange

theorem readCodePoint_of_beyond {n : Nat} (h : 0x110000 ≤ n) :
    readCodePoint n p = .error (.scalar (rangeFault n)) := by
  rw [readCodePoint, rangeFault]
  split_ifs <;> rfl

section Beyond

variable {front ds : List Char} (hlength : ds.length = 8)
  (hds : ∀ d ∈ ds, (Unicode.hexDigit? d).isSome = true) (beyond : 0x110000 ≤ Unicode.hexNat ds)

include hlength hds beyond

theorem readEscape_of_beyond (h : p.rest = 'U' :: (ds ++ rest)) :
    readEscape p = .error (.scalar (rangeFault (Unicode.hexNat ds))) := by
  have htake : p.next.rest.take 8 = ds := by
    rw [Cursor.next_rest, h, List.tail_cons, List.take_left' hlength]
  have hnone : escape? 'U' = none := by decide
  have hwidth : escapeWidth? 'U' = some 8 := by decide
  have hform : ¬(ds.length < 8 ∨ (!ds.all fun d => (Unicode.hexDigit? d).isSome) = true) := by
    rw [hlength, List.all_eq_true.mpr hds]
    decide
  rw [readEscape]
  simp only [Cursor.peek_of_rest h, hnone, hwidth, htake, if_neg hform,
    readCodePoint_of_beyond beyond]
  rfl

theorem readQuotedFrom_of_escape (h : p.rest = '\\' :: 'U' :: (ds ++ rest)) (fuel : Nat)
    (acc : List (List Char)) :
    readQuotedFrom true (fuel + 1) p acc = .error (.scalar (rangeFault (Unicode.hexNat ds))) := by
  have hnext : p.next.rest = 'U' :: (ds ++ rest) := by rw [Cursor.next_rest, h, List.tail_cons]
  rw [readQuotedFrom]
  simp only [Cursor.peek_of_rest h, readEscape_of_beyond hlength hds beyond hnext]
  rfl

/-- What is written up to such a character is taken as it is. -/
theorem readQuotedFrom_of_beyond (hfront : ∀ c ∈ front, isQuotedPlain c = true)
    (h : p.rest = front ++ '\\' :: 'U' :: (ds ++ rest)) (fuel : Nat) (acc : List (List Char)) :
    readQuotedFrom true (fuel + 2) p acc = .error (.scalar (rangeFault (Unicode.hexNat ds))) := by
  cases front with
  | nil => exact readQuotedFrom_of_escape hlength hds beyond h (fuel + 1) acc
  | cons c front =>
    have hspan : p.span isQuotedPlain = (c :: front, p.skip (c :: front).length) := by
      refine Cursor.span_of_rest h hfront ?_
      rintro d ⟨⟩
      decide
    have hc := hfront c List.mem_cons_self
    simp only [isQuotedPlain, Bool.not_eq_true', Bool.or_eq_false_iff,
      decide_eq_false_iff_not] at hc
    obtain ⟨⟨⟨hsingle, hdouble⟩, hslash⟩, hwide⟩ := hc
    rw [readQuotedFrom]
    simp only [Cursor.peek_of_rest h, hspan, hsingle, hdouble, hslash, hwide, false_and, if_true,
      if_false, false_or, Bool.false_eq_true]
    have hbehind : (p.skip (c :: front).length).rest = '\\' :: 'U' :: (ds ++ rest) := by
      rw [Cursor.skip_rest, h, List.drop_left]
    exact readQuotedFrom_of_escape hlength hds beyond hbehind _ _

end Beyond

/-! ## The first token -/

/-- Nothing is passed over before a first character that begins a token. -/
theorem skipToToken_start {c : Char} (hmark : c.toNat ≠ 0xFEFF) (hblank : c ≠ ' ')
    (hcomment : c ≠ '#') (hbreak : isBreak c = false) :
    (Scanner.start (c :: cs)).skipToToken = .start (c :: cs) := by
  have hskip : (Cursor.start (c :: cs)).skipComment = .start (c :: cs) := by
    simp [Cursor.skipComment, Cursor.skipWhile, Cursor.span, Cursor.start, Cursor.peek, hblank,
      hcomment, Cursor.skip]
  have hpeek : (Cursor.start (c :: cs)).peek = c := rfl
  have hplace : (Scanner.start (c :: cs)).place = .start (c :: cs) := rfl
  rw [Scanner.skipToToken, hplace, hpeek]
  simp only [hmark, and_false, if_false]
  rw [Scanner.skipGaps]
  simp only [hskip, hpeek, hbreak, Bool.false_eq_true, if_false]
  rfl

/-- The first token begins at the first character, unless that is passed over. -/
theorem step_of_start {c : Char}
    (hskip : (Scanner.start (c :: cs)).skipToToken = .start (c :: cs)) :
    (Scanner.start (c :: cs)).step = (Scanner.start (c :: cs)).scanToken := by
  rw [Scanner.step, hskip]
  rfl

theorem step_of_directive (cs : List Char) :
    (Scanner.start ('%' :: cs)).step =
      readDirective (Cursor.start ('%' :: cs)).next >>= fun x =>
        pure { Scanner.start ('%' :: cs) with
          keysAllowed := false, queue := [.directive x.1], place := x.2 } := by
  have hpeek : (Scanner.start ('%' :: cs)).place.peek = '%' := rfl
  have hcolumn : (Scanner.start ('%' :: cs)).place.column = 0 := rfl
  have hskip : (Scanner.start ('%' :: cs)).skipToToken = .start ('%' :: cs) :=
    skipToToken_start (by decide) (by decide) (by decide) (by decide)
  rw [step_of_start hskip, Scanner.scanToken]
  simp only [hpeek, hcolumn]
  rw [if_neg (by decide), if_pos (by decide)]
  rfl

theorem savePending_of_nil {s : Scanner} (h : s.pending = []) :
    ∃ s', s.savePending = .ok s' ∧ s'.place = s.place := by
  have hdrop : s.dropPending = .ok s := by rw [Scanner.dropPending, h]; rfl
  rw [Scanner.savePending]
  split
  · exact ⟨s, rfl, rfl⟩
  · rw [hdrop]
    exact ⟨_, rfl, rfl⟩

theorem keyed_of_error {s : Scanner} (hpending : s.pending = []) {f : Fault}
    {read : Cursor → Except Fault (Token × Cursor)} (h : read s.place = .error f) :
    s.keyed read = .error f := by
  obtain ⟨s', hsave, hplace⟩ := savePending_of_nil hpending
  rw [Scanner.keyed, hsave]
  simp only [bind, Except.bind, hplace, h]

theorem step_of_quote {f : Fault} (h : readQuoted true (.start ('"' :: cs)) = .error f) :
    (Scanner.start ('"' :: cs)).step = .error f := by
  have hpeek : (Scanner.start ('"' :: cs)).place.peek = '"' := rfl
  have hmark (c : Char) (hc : c ≠ '"') : (Scanner.start ('"' :: cs)).place.atMark c = false := by
    rw [Cursor.atMark, Bool.and_eq_false_iff]
    exact .inl (by simp [Scanner.start, Cursor.start, hc.symm])
  have hskip : (Scanner.start ('"' :: cs)).skipToToken = .start ('"' :: cs) :=
    skipToToken_start (by decide) (by decide) (by decide) (by decide)
  have hkeyed : (Scanner.start ('"' :: cs)).scanToken =
      (Scanner.start ('"' :: cs)).keyed fun p =>
        (readQuoted true p).map fun x => (.scalar x.1 false, x.2) := by
    rw [Scanner.scanToken]
    simp only [hpeek, hmark '-' (by decide), hmark '.' (by decide), and_false, Bool.false_eq_true,
      if_false]
    rfl
  rw [step_of_start hskip, hkeyed]
  refine keyed_of_error rfl ?_
  rw [show (Scanner.start ('"' :: cs)).place = .start ('"' :: cs) from rfl, h]
  rfl

theorem run_document_of_fault {f : Fault} {r : Reader} (h : r.left = ⟨[], some f⟩) (fuel : Nat) :
    (Reading.document fuel).run r = .error f := by
  have hpeek : Reading.peek.run r = .error f := by
    obtain ⟨left, nodes, anchors, handles⟩ := r
    subst h
    rfl
  rw [Reading.document, StateT.run_bind, hpeek]
  rfl

theorem ofText_of_step {f : Fault} (htext : cs.all isTextChar = true)
    (h : (Scanner.start cs).step = .error f) : Graph.ofText cs = .error f := by
  have hrun (fuel : Nat) : (Scanner.start cs).run (fuel + 1) = ⟨[], some f⟩ := by
    rw [Scanner.run_succ, h]
  have htokens : Tokens.ofText cs = ⟨[], some f⟩ := by
    rw [Tokens.ofText]
    exact hrun (cs.length + 1)
  have hnot : (!cs.all isTextChar) = false := by rw [htext]; rfl
  rw [Graph.ofText, hnot, if_neg Bool.false_ne_true, htokens]
  dsimp only
  rw [run_document_of_fault rfl]

/-! ## Documents -/

/-- **A version of too many digits** at the front of a document breaks it off. -/
theorem Graph.ofText_of_version {blanks ds : List Char} (hblanks : ∀ c ∈ blanks, c = ' ')
    (hds : ∀ d ∈ ds, d.isDigit = true) (hrest : ∀ c, rest.head? = some c → c.isDigit = false)
    (long : Number.maxDigits < ds.length)
    (htext : ('%' :: (['Y', 'A', 'M', 'L'] ++ ' ' :: (blanks ++ (ds ++ rest)))).all isTextChar =
      true) :
    ofText ('%' :: (['Y', 'A', 'M', 'L'] ++ ' ' :: (blanks ++ (ds ++ rest)))) =
      .error (.scalar (.number (.tooLong ds.length))) := by
  refine ofText_of_step htext ?_
  rw [step_of_directive,
    readDirective_of_version (Cursor.next_rest _) hblanks hds hrest long]
  rfl

/-- **A character beyond all characters** in a text in quotes at the front of a document breaks it
off. -/
theorem Graph.ofText_of_escape {front ds : List Char} (hfront : ∀ c ∈ front, isQuotedPlain c = true)
    (hlength : ds.length = 8) (hds : ∀ d ∈ ds, (Unicode.hexDigit? d).isSome = true)
    (beyond : 0x110000 ≤ Unicode.hexNat ds)
    (htext : ('"' :: (front ++ '\\' :: 'U' :: (ds ++ rest))).all isTextChar = true) :
    ofText ('"' :: (front ++ '\\' :: 'U' :: (ds ++ rest))) =
      .error (.scalar (rangeFault (Unicode.hexNat ds))) := by
  refine ofText_of_step htext (step_of_quote ?_)
  exact readQuotedFrom_of_beyond hlength hds beyond hfront (Cursor.next_rest _) _ []

end Yaml
end RegistryAuth
