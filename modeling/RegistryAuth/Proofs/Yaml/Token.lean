import Mathlib
import RegistryAuth.Proofs.Except
import RegistryAuth.Proofs.Number.Length
import RegistryAuth.Yaml.Token

/-!
# What can be wrong in a token

The readers of tokens keep to the text: what is left behind a token is an end of the text
(`Cursor.IsIn`).  Their faults are those of tokens, with two exceptions that are put down to the
text (`Misread`): the number of a version that is too long, and a character that is written by a
number beyond all characters.
-/

namespace RegistryAuth
namespace Yaml

variable {text : List Char} {α β : Type}

/-! ## Places in a text -/

namespace Cursor

variable {p : Cursor}

theorem next_rest (p : Cursor) : p.next.rest = p.rest.tail := by
  rw [next]
  split
  · rename_i h
    rw [h]
    rfl
  · rename_i h
    rw [h]
    dsimp only
    split_ifs <;> rfl

theorem skip_rest (p : Cursor) (n : Nat) : (p.skip n).rest = p.rest.drop n := by
  induction n generalizing p with
  | zero => rfl
  | succ n ih => rw [skip, ih, next_rest, List.drop_tail]

/-- The place is in the text. -/
def IsIn (text : List Char) (p : Cursor) : Prop := p.rest <:+ text

namespace IsIn

theorem next (h : p.IsIn text) : p.next.IsIn text := by
  rw [IsIn, next_rest]
  exact (List.tail_suffix p.rest).trans h

theorem skip (h : p.IsIn text) (n : Nat) : (p.skip n).IsIn text := by
  rw [IsIn, skip_rest]
  exact (List.drop_suffix n p.rest).trans h

theorem span (h : p.IsIn text) (accepts : Char → Bool) : (p.span accepts).2.IsIn text := h.skip _

theorem skipWhile (h : p.IsIn text) (accepts : Char → Bool) : (p.skipWhile accepts).IsIn text :=
  h.span accepts

theorem lineBreak (h : p.IsIn text) : p.lineBreak.2.IsIn text := by
  rw [Cursor.lineBreak]
  split
  · exact h.skip 2
  · split
    · exact h.next
    · split
      · exact h.next
      · exact h
  · exact h

theorem skipComment (h : p.IsIn text) : p.skipComment.IsIn text := by
  rw [Cursor.skipComment]
  split
  · exact (h.skipWhile _).skipWhile _
  · exact h.skipWhile _

end IsIn

theorem rest_eq_of_peek {c : Char} (h : p.peek = c) (hc : c ≠ endChar) :
    p.rest = c :: p.next.rest := by
  rw [peek] at h
  rw [next_rest]
  cases hrest : p.rest with
  | nil =>
    rw [hrest] at h
    exact absurd h.symm hc
  | cons d cs =>
    rw [hrest] at h
    rw [← h]
    rfl

theorem start_isIn (text : List Char) : (start text).IsIn text := List.suffix_refl text

end Cursor

/-! ## Faults of a text -/

/-- The text holds a character that is written by these eight hexadecimal digits. -/
def HoldsEscape (text ds : List Char) : Prop :=
  '\\' :: 'U' :: ds <:+: text ∧ ds.length = 8 ∧ ∀ d ∈ ds, (Unicode.hexDigit? d).isSome = true

/-- The text holds the number of a version that is too long, or writes a character by a number
beyond all characters. -/
inductive Misread (text : List Char) : ScalarFault → Prop
  | version {n : Nat} (h : Number.HoldsLong text n) : Misread text (.number (.tooLong n))
  | range {ds : List Char} (h : HoldsEscape text ds) (low : 0x110000 ≤ Unicode.hexNat ds)
      (high : Unicode.hexNat ds < 0x80000000) : Misread text .characterRange
  | size {ds : List Char} (h : HoldsEscape text ds) (low : 0x80000000 ≤ Unicode.hexNat ds) :
      Misread text .characterSize

/-- If the fault is one of a scalar, the text accounts for it. -/
def Fault.IsOf (text : List Char) (f : Fault) : Prop := ∀ s, f = .scalar s → Misread text s

/-- A reader comes to what meets the condition, and its faults are those of the text. -/
abbrev Reads (text : List Char) (P : α → Prop) (r : Except Fault α) : Prop :=
  Except.Ensures P (Fault.IsOf text) r

/-- A reader keeps to the text. -/
abbrev Keeps (text : List Char) (r : Except Fault (α × Cursor)) : Prop :=
  Reads text (fun x => x.2.IsIn text) r

theorem reads_refuse {P : α → Prop} (f : TokenFault) : Reads text P (refuse f) :=
  fun _ h => nomatch h

/-! ## Names, tags and directives -/

variable {p : Cursor}

theorem restOfLine_reads (h : p.IsIn text) (f : TokenFault) :
    Reads text (fun q => q.IsIn text) (restOfLine f p) := by
  rw [restOfLine]
  split
  · exact h.skipComment.lineBreak
  · exact reads_refuse _

theorem readName_keeps (h : p.IsIn text) (f : TokenFault) : Keeps text (readName f p) := by
  rw [readName]
  dsimp only
  split
  · exact reads_refuse _
  · exact h.span _

theorem readAnchor_keeps (h : p.IsIn text) : Keeps text (readAnchor p) := by
  rw [readAnchor]
  refine Except.Ensures.bind (readName_keeps h.next _) fun x hx => ?_
  dsimp only
  split
  · exact hx
  · exact reads_refuse _

theorem readUriBytes_keeps (h : p.IsIn text) (fuel : Nat) (acc : List UInt8) :
    Keeps text (readUriBytes fuel p acc) := by
  induction fuel generalizing p acc with
  | zero => exact h
  | succ fuel ih =>
    rw [readUriBytes]
    split
    · split
      · exact ih (h.skip 3) _
      · exact reads_refuse _
    · exact h

theorem readUriFrom_keeps (h : p.IsIn text) (fuel : Nat) (acc : List (List Char)) :
    Keeps text (readUriFrom fuel p acc) := by
  induction fuel generalizing p acc with
  | zero => exact h
  | succ fuel ih =>
    rw [readUriFrom]
    dsimp only
    split
    · exact ih (h.span _) _
    · split
      · refine Except.Ensures.bind (readUriBytes_keeps h _ _) fun x hx => ?_
        split
        · exact ih hx _
        · exact reads_refuse _
      · split
        · exact reads_refuse _
        · exact h

theorem readUri_keeps (h : p.IsIn text) : Keeps text (readUri p) := readUriFrom_keeps h _ _

theorem readHandle_keeps (h : p.IsIn text) : Keeps text (readHandle p) := by
  rw [readHandle]
  split
  · exact reads_refuse _
  · split
    · exact h.next
    · dsimp only
      split
      · exact (h.next.span _).next
      · exact reads_refuse _

theorem readTag_keeps (h : p.IsIn text) : Keeps text (readTag p) := by
  rw [readTag]
  have hend {tag : TagText} {q : Cursor} (hq : q.IsIn text) :
      Keeps text (if isGap q.peek = true then pure (tag, q) else refuse .tagForm) := by
    split
    · exact hq
    · exact reads_refuse _
  split
  · refine Except.Ensures.bind (readUri_keeps (h.skip 2)) fun x hx => ?_
    dsimp only
    split
    · exact reads_refuse _
    · exact hend hx.next
  · split
    · exact hend h.next
    · split
      · refine Except.Ensures.bind (readHandle_keeps h) fun x hx => ?_
        exact Except.Ensures.bind (readUri_keeps hx) fun y hy => hend hy
      · exact Except.Ensures.bind (readUri_keeps h.next) fun x hx => hend hx

/-- The digits of a version's number are in the text. -/
theorem readVersionNumber_keeps (h : p.IsIn text) : Keeps text (readVersionNumber p) := by
  rw [readVersionNumber]
  dsimp only
  split
  · exact reads_refuse _
  · split
    · exact h.span _
    · rename_i hempty _ e herror
      have hdigits : ∀ d ∈ (p.span Char.isDigit).1, d.isDigit = true := fun d hd =>
        List.mem_takeWhile_imp hd
      have hin : (p.span Char.isDigit).1 <:+: text :=
        (List.takeWhile_prefix _).isInfix.trans h.isInfix
      obtain ⟨rfl, hlong⟩ := Number.whole_of_digits hdigits (by simpa using hempty) herror
      rintro s ⟨⟩
      exact .version ⟨_, hin, hdigits, rfl, hlong⟩

theorem readDirective_keeps (h : p.IsIn text) : Keeps text (readDirective p) := by
  have hend {d : Directive} {q : Cursor} (hq : q.IsIn text) :
      Keeps text (do
        let p ← restOfLine .directive q
        pure (d, p)) :=
    Except.Ensures.bind (restOfLine_reads hq _) fun q hq => hq
  rw [readDirective]
  refine Except.Ensures.bind (readName_keeps h _) fun x hx => ?_
  dsimp only
  split
  · exact reads_refuse _
  · split
    · refine Except.Ensures.bind (readVersionNumber_keeps (hx.skipWhile _)) fun y hy => ?_
      split
      · exact reads_refuse _
      · refine Except.Ensures.bind (readVersionNumber_keeps hy.next) fun z hz => ?_
        split
        · exact reads_refuse _
        · exact hend hz
    · split
      · refine Except.Ensures.bind (readHandle_keeps (hx.skipWhile _)) fun y hy => ?_
        split
        · exact reads_refuse _
        · refine Except.Ensures.bind (readUri_keeps (hy.skipWhile _)) fun z hz => ?_
          split
          · exact reads_refuse _
          · exact hend hz
      · exact hend (hx.skipWhile _)

/-! ## Block scalars -/

theorem readIncrement_keeps (h : p.IsIn text) : Keeps text (readIncrement p) := by
  rw [readIncrement]
  split
  · exact reads_refuse _
  · split
    · exact h.next
    · exact h

theorem readBlockHeader_keeps (h : p.IsIn text) : Keeps text (readBlockHeader p) := by
  have hend {x : Chomping × Option Nat} {q : Cursor} (hq : q.IsIn text) :
      Keeps text (do
        if !isGap q.peek then refuse .blockHeader
        let p ← restOfLine .blockHeader q
        pure (x, p)) := by
    split
    · exact reads_refuse _
    · exact Except.Ensures.bind (restOfLine_reads hq _) fun q hq => hq
  rw [readBlockHeader]
  split
  · exact Except.Ensures.bind (readIncrement_keeps h.next) fun x hx => hend (x := (_, _)) hx
  · refine Except.Ensures.bind (readIncrement_keeps h) fun x hx => ?_
    dsimp only
    split
    · exact hend (x := (_, _)) hx
    · split
      · exact hend (x := (_, _)) hx.next
      · exact hend (x := (_, _)) hx

theorem readLeadingBreaks_isIn (h : p.IsIn text) (fuel : Nat) (acc : List (List Char))
    (widest : Nat) : (readLeadingBreaks fuel p acc widest).2.2.IsIn text := by
  induction fuel generalizing p acc widest with
  | zero => exact h
  | succ fuel ih =>
    rw [readLeadingBreaks]
    split
    · exact ih h.next _ _
    · split
      · exact ih h.lineBreak _ _
      · exact h

theorem skipIndent_isIn (h : p.IsIn text) (indent : Nat) : (skipIndent indent p).IsIn text :=
  h.skip _

theorem readBlockBreaks_isIn (indent : Nat) (h : p.IsIn text) (fuel : Nat)
    (acc : List (List Char)) : (readBlockBreaks indent fuel p acc).2.IsIn text := by
  induction fuel generalizing p acc with
  | zero => exact h
  | succ fuel ih =>
    rw [readBlockBreaks]
    dsimp only
    split
    · exact ih (skipIndent_isIn h _).lineBreak _
    · exact skipIndent_isIn h _

theorem readBlockLines_isIn {folded : Bool} {indent : Nat} (h : p.IsIn text) (fuel : Nat)
    (breaks acc : List (List Char)) :
    (readBlockLines folded indent fuel p breaks acc).2.2.2.IsIn text := by
  induction fuel generalizing p breaks acc with
  | zero => exact h
  | succ fuel ih =>
    rw [readBlockLines]
    have hbreaks (fuel : Nat) (acc : List (List Char)) :=
      readBlockBreaks_isIn indent (h.span fun c => !isLineEnd c).lineBreak fuel acc
    split
    · dsimp only
      split
      · exact ih (hbreaks _ _) _ _
      · exact hbreaks _ _
    · exact h

theorem readBlockScalar_keeps {folded : Bool} {outer : Int} (h : p.IsIn text) :
    Keeps text (readBlockScalar folded outer p) := by
  rw [readBlockScalar]
  refine Except.Ensures.bind (readBlockHeader_keeps h.next) fun x hx => ?_
  obtain ⟨⟨chomping, increment⟩, q⟩ := x
  cases increment with
  | none =>
    dsimp only
    exact readBlockLines_isIn (readLeadingBreaks_isIn hx _ _ _) _ _ _
  | some n =>
    dsimp only
    exact readBlockLines_isIn (readBlockBreaks_isIn _ hx _ _) _ _ _

/-! ## Quoted scalars -/

theorem readQuotedBreaks_keeps (h : p.IsIn text) (fuel : Nat) (acc : List (List Char)) :
    Keeps text (readQuotedBreaks fuel p acc) := by
  induction fuel generalizing p acc with
  | zero => exact h
  | succ fuel ih =>
    rw [readQuotedBreaks]
    split
    · exact reads_refuse _
    · dsimp only
      split
      · exact ih (h.skipWhile _).lineBreak _
      · exact h.skipWhile _

theorem readQuotedGap_keeps (h : p.IsIn text) : Keeps text (readQuotedGap p) := by
  rw [readQuotedGap]
  dsimp only
  split
  · exact reads_refuse _
  · split
    · exact Except.Ensures.bind (readQuotedBreaks_keeps (h.span _).lineBreak _ _) fun x hx => hx
    · exact h.span _

theorem lt_of_hexDigit? {c : Char} {d : Nat} (h : Unicode.hexDigit? c = some d) : d < 16 := by
  simp only [Unicode.hexDigit?] at h
  split_ifs at h with hdigit hupper hlower
  · have := Option.some.inj h
    omega
  · have := Option.some.inj h
    omega
  · have := Option.some.inj h
    omega

/-- A number that grows by at most one digit at each step has at most as many digits as there are
steps. -/
theorem foldl_lt_pow {f : Nat → Char → Nat} (hf : ∀ n c, f n c < 16 * (n + 1)) (ds : List Char)
    (n : Nat) : ds.foldl f n < 16 ^ ds.length * (n + 1) := by
  induction ds generalizing n with
  | nil => simp
  | cons c ds ih =>
    rw [List.foldl_cons, List.length_cons, Nat.pow_succ, Nat.mul_assoc]
    exact (ih _).trans_le (Nat.mul_le_mul_left _ (hf n c))

theorem hexNat_lt (ds : List Char) : Unicode.hexNat ds < 16 ^ ds.length := by
  rw [Unicode.hexNat]
  refine (foldl_lt_pow (fun n c => ?_) ds 0).trans_eq (by rw [Nat.zero_add, Nat.mul_one])
  split
  · next d hd =>
    have := lt_of_hexDigit? hd
    omega
  · omega

/-- A character that is written by a number beyond all characters is in the text. -/
theorem readCodePoint_keeps {ds : List Char} (h : p.IsIn text)
    (hds : 0x110000 ≤ Unicode.hexNat ds → HoldsEscape text ds) :
    Keeps text (readCodePoint (Unicode.hexNat ds) p) := by
  rw [readCodePoint]
  split
  · rename_i hsize
    rintro s ⟨⟩
    exact .size (hds (by omega)) hsize
  · split
    · rename_i hsize hrange
      rintro s ⟨⟩
      exact .range (hds hrange) hrange (by omega)
    · split
      · split
        · exact h.skip 6
        · exact h
      · split
        · exact h
        · exact h

/-- Only eight digits lead beyond all characters. -/
theorem eq_of_escapeWidth? {c : Char} {width : Nat} {ds : List Char}
    (h : escapeWidth? c = some width) (hlength : ds.length ≤ width)
    (hlow : 0x110000 ≤ Unicode.hexNat ds) : c = 'U' ∧ width = 8 := by
  have hwide : ¬width ≤ 4 := fun hle => by
    have hlt := hexNat_lt ds
    have hpow : 16 ^ ds.length ≤ 16 ^ 4 := Nat.pow_le_pow_right (by decide) (hlength.trans hle)
    omega
  obtain ⟨front, back, hlist, -⟩ := List.lookup_eq_some_iff.mp h
  have hmem : (c, width) ∈ [('x', 2), ('u', 4), ('U', 8)] := by
    rw [hlist]
    exact List.mem_append_right _ List.mem_cons_self
  simp only [List.mem_cons, Prod.mk.injEq, List.not_mem_nil, or_false] at hmem
  rcases hmem with ⟨rfl, rfl⟩ | ⟨rfl, rfl⟩ | huppercase
  · exact absurd (by decide) hwide
  · exact absurd (by decide) hwide
  · exact huppercase

theorem readEscape_keeps (h : p.IsIn text) (hescape : '\\' :: p.rest <:+ text) :
    Keeps text (readEscape p) := by
  rw [readEscape]
  dsimp only
  split
  · exact h.next
  · split
    · split
      · exact reads_refuse _
      · rename_i width hwidth hdigits
        refine Except.Ensures.bind (readCodePoint_keeps (h.skip _) fun hlow => ?_) fun x hx => hx
        obtain ⟨hpeek, rfl⟩ := eq_of_escapeWidth? hwidth (List.length_take_le _ _) hlow
        obtain ⟨hlength, hhex⟩ : 8 ≤ (p.next.rest.take 8).length ∧
            ∀ d ∈ p.next.rest.take 8, (Unicode.hexDigit? d).isSome = true := by
          simpa [Option.isSome_iff_ne_none] using hdigits
        refine ⟨?_, le_antisymm (List.length_take_le _ _) hlength, hhex⟩
        rw [Cursor.rest_eq_of_peek hpeek (by decide)] at hescape
        exact (List.prefix_append ('\\' :: 'U' :: p.next.rest.take 8) (p.next.rest.drop 8)).isInfix
          |>.trans (by simpa using hescape.isInfix)
    · split
      · exact Except.Ensures.bind (readQuotedBreaks_keeps h.lineBreak _ _) fun x hx => hx
      · exact reads_refuse _

theorem readQuotedFrom_keeps {double : Bool} (h : p.IsIn text) (fuel : Nat)
    (acc : List (List Char)) : Keeps text (readQuotedFrom double fuel p acc) := by
  induction fuel generalizing p acc with
  | zero => exact reads_refuse _
  | succ fuel ih =>
    rw [readQuotedFrom]
    dsimp only
    generalize (if double = true then '"' else '\'') = quote
    split
    · exact ih (h.skip 2) _
    · split
      · exact h.next
      · split
        · rename_i hescape
          refine Except.Ensures.bind (readEscape_keeps h.next ?_) fun x hx => ih hx _
          rw [← Cursor.rest_eq_of_peek hescape.1 (by decide)]
          exact h
        · split
          · exact ih h.next _
          · split
            · exact Except.Ensures.bind (readQuotedGap_keeps h) fun x hx => ih hx _
            · exact ih (h.span _) _

theorem readQuoted_keeps {double : Bool} (h : p.IsIn text) : Keeps text (readQuoted double p) :=
  readQuotedFrom_keeps h.next _ _

/-! ## Plain scalars -/

theorem readPlainBreaks_isIn (h : p.IsIn text) (fuel : Nat) (acc : List (List Char)) :
    (readPlainBreaks fuel p acc).2.IsIn text := by
  induction fuel generalizing p acc with
  | zero => exact h
  | succ fuel ih =>
    rw [readPlainBreaks]
    dsimp only
    split
    · split
      · exact (h.skipWhile _).lineBreak
      · exact ih (h.skipWhile _).lineBreak _
    · exact h.skipWhile _

theorem readPlainGap_isIn (h : p.IsIn text) : (readPlainGap p).2.IsIn text := by
  rw [readPlainGap]
  dsimp only
  split
  · split
    · exact (h.span _).lineBreak
    · have hbreaks := readPlainBreaks_isIn (h.span (· = ' ')).lineBreak
        ((p.span (· = ' ')).2.lineBreak.2.rest.length + 1) []
      split
      · rename_i heq
        rw [heq] at hbreaks
        exact hbreaks
      · rename_i heq
        rw [heq] at hbreaks
        exact hbreaks
  · exact h.span _

theorem readPlainFrom_isIn {inFlow : Bool} {indent : Int} (h : p.IsIn text) (fuel : Nat)
    (gap : PlainGap) (acc : List (List Char)) :
    (readPlainFrom inFlow indent fuel p gap acc).2.IsIn text := by
  induction fuel generalizing p gap acc with
  | zero => exact h
  | succ fuel ih =>
    rw [readPlainFrom]
    dsimp only
    generalize (if p.peek = '#' then [] else plainRun inFlow p.rest) = run
    split
    · exact h
    · split
      · exact readPlainGap_isIn (h.skip _)
      · exact ih (readPlainGap_isIn (h.skip _)) _ _

theorem readPlain_isIn {inFlow : Bool} {outer : Int} (h : p.IsIn text) :
    (readPlain inFlow outer p).2.IsIn text :=
  readPlainFrom_isIn h _ _ _

end Yaml
end RegistryAuth
