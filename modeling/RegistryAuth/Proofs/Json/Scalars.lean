import RegistryAuth.Proofs.Json.Strings
import RegistryAuth.Proofs.Text.Cut

/-!
# Values that hold no others

Which texts are numbers, and which are words or texts in quotes, said without a reader
(`Json.WritesNumber`, `Json.WritesScalar`), and that the reader reads just these
(`Json.readScalar_append`, `Json.writes_of_readScalar`).

## Why a number needs to be followed by a sign of its own

A number ends where no more of it follows, so `12` also begins with the text of `1`, and `1e5` with
that of another.  What is written is read only in front of a sign that does not go on with a number
(`Json.EndsNumber`).
-/

namespace RegistryAuth
namespace Json

variable {whole cs left rest t : List Char} {v : Json}

/-! ## Numbers -/

/-- The digits of a whole number: a zero, or digits of which the first is none. -/
inductive IsWhole : List Char → Prop
  | zero : IsWhole ['0']
  | more {d : Char} {ds : List Char} (nonzero : d ≠ '0') (first : d.isDigit = true)
      (rest : ∀ c ∈ ds, c.isDigit = true) : IsWhole (d :: ds)

/-- One digit or more. -/
def IsDigits (ds : List Char) : Prop := ds ≠ [] ∧ ∀ d ∈ ds, d.isDigit = true

/-- The digits behind the point, if there is one. -/
inductive WritesFraction : List Char → List Char → Prop
  | none : WritesFraction [] []
  | some {ds : List Char} (digits : IsDigits ds) : WritesFraction ds ('.' :: ds)

/-- The sign of an exponent. -/
inductive WritesSign : Bool → List Char → Prop
  | none : WritesSign false []
  | plus : WritesSign false ['+']
  | minus : WritesSign true ['-']

/-- The exponent, if there is one. -/
inductive WritesExponent : Option Int → List Char → Prop
  | none : WritesExponent none []
  | some {e : Char} {negative : Bool} {sign ds : List Char} (letter : e = 'e' ∨ e = 'E')
      (signed : WritesSign negative sign) (digits : IsDigits ds) :
      WritesExponent (some (Double.signed negative (Number.ofDigits ds))) (e :: (sign ++ ds))

/-- A number without its sign.  A whole number may not have too many digits, and any other has a
fraction or an exponent. -/
inductive WritesNumber (negative : Bool) : Json → List Char → Prop
  | int {ds : List Char} (digits : IsWhole ds) (short : ds.length ≤ Number.maxDigits) :
      WritesNumber negative (.int (Double.signed negative (Number.ofDigits ds))) ds
  | float {ds frac point power : List Char} {exp : Option Int} (digits : IsWhole ds)
      (fraction : WritesFraction frac point) (exponent : WritesExponent exp power)
      (some : frac ≠ [] ∨ exp ≠ none) :
      WritesNumber negative
        (.float (Double.ofDecimal negative (Number.ofDigits (ds ++ frac))
          (exp.getD 0 - frac.length)))
        (ds ++ (point ++ power))

/-- What follows does not go on with a number. -/
def EndsNumber (rest : List Char) : Prop :=
  ∀ c ∈ rest.head?, c.isDigit = false ∧ c ≠ '.' ∧ c ≠ 'e' ∧ c ≠ 'E'

theorem takeDigits_append {ds : List Char} (h : ∀ d ∈ ds, d.isDigit = true)
    (hrest : ∀ c ∈ rest.head?, c.isDigit = false) :
    Number.takeDigits (ds ++ rest) = (ds, rest) := by
  rw [Number.takeDigits, Text.takeWhile_append_of_head h hrest,
    Text.dropWhile_append_of_head h hrest]

theorem takeDigits_eq {ds : List Char} (h : Number.takeDigits cs = (ds, left)) :
    cs = ds ++ left ∧ ∀ d ∈ ds, d.isDigit = true := by
  obtain ⟨rfl, rfl⟩ := Prod.mk.inj h
  exact ⟨List.takeWhile_append_dropWhile.symm, fun d hd => List.mem_takeWhile_imp hd⟩

theorem wholeDigits_append {ds : List Char} (h : IsWhole ds)
    (hrest : ∀ c ∈ rest.head?, c.isDigit = false) : wholeDigits (ds ++ rest) = some (ds, rest) := by
  cases h with
  | zero => rfl
  | @more d ds nonzero first digits =>
    have hall : ∀ c ∈ d :: ds, c.isDigit = true := List.forall_mem_cons.mpr ⟨first, digits⟩
    rw [List.cons_append, wholeDigits, if_neg nonzero, if_pos first, ← List.cons_append,
      takeDigits_append hall hrest]

theorem isWhole_of_wholeDigits {ds : List Char} (h : wholeDigits cs = some (ds, left)) :
    IsWhole ds ∧ cs = ds ++ left := by
  cases cs with
  | nil => cases h
  | cons c cs =>
    rw [wholeDigits] at h
    split_ifs at h with hzero hdigit
    · obtain ⟨rfl, rfl⟩ := Prod.mk.inj (Option.some.inj h)
      exact ⟨.zero, by rw [hzero]; rfl⟩
    · obtain ⟨heq, hall⟩ := takeDigits_eq (Option.some.inj h)
      cases ds with
      | nil =>
        obtain ⟨hds, -⟩ := Prod.mk.inj (Option.some.inj h)
        rw [List.takeWhile_cons_of_pos hdigit] at hds
        cases hds
      | cons d ds =>
        obtain ⟨rfl, -⟩ := List.cons.inj heq
        exact ⟨.more hzero hdigit (List.forall_mem_cons.mp hall).2, heq⟩

theorem fraction_append {ds point : List Char} (h : WritesFraction ds point)
    (hrest : ∀ c ∈ rest.head?, c.isDigit = false ∧ c ≠ '.') :
    fraction (point ++ rest) = (ds, rest) := by
  cases h with
  | none =>
    rw [List.nil_append, fraction]
    rintro c cs rfl
    exact (hrest '.' rfl).2 rfl
  | some digits =>
    obtain ⟨d, ds, rfl⟩ := List.exists_cons_of_ne_nil digits.1
    rw [List.cons_append, List.cons_append, fraction, if_pos (digits.2 d List.mem_cons_self),
      ← List.cons_append, takeDigits_append digits.2 fun c hc => (hrest c hc).1]

theorem writes_of_fraction {ds : List Char} (h : fraction cs = (ds, left)) :
    ∃ point, WritesFraction ds point ∧ cs = point ++ left := by
  rw [fraction.eq_def] at h
  split at h
  · split at h
    · rename_i c cs hdigit
      obtain ⟨heq, hall⟩ := takeDigits_eq h
      have hne : ds ≠ [] := by
        rintro rfl
        obtain ⟨hds, -⟩ := Prod.mk.inj h
        rw [List.takeWhile_cons_of_pos hdigit] at hds
        cases hds
      exact ⟨'.' :: ds, .some ⟨hne, hall⟩, congrArg ('.' :: ·) heq⟩
    · obtain ⟨rfl, rfl⟩ := Prod.mk.inj h
      exact ⟨[], .none, rfl⟩
  · obtain ⟨rfl, rfl⟩ := Prod.mk.inj h
    exact ⟨[], .none, rfl⟩

theorem takeSign_append {negative : Bool} {sign : List Char} (h : WritesSign negative sign)
    (hrest : ∀ c ∈ rest.head?, c.isDigit = true) :
    Number.takeSign (sign ++ rest) = (negative, rest) := by
  cases h with
  | plus | minus => rfl
  | none =>
    rw [List.nil_append, Number.takeSign]
    · rintro cs rfl
      exact absurd (hrest _ rfl) (by decide)
    · rintro cs rfl
      exact absurd (hrest _ rfl) (by decide)

theorem writes_of_takeSign {negative : Bool} (h : Number.takeSign cs = (negative, left)) :
    ∃ sign, WritesSign negative sign ∧ cs = sign ++ left := by
  rw [Number.takeSign.eq_def] at h
  split at h
  · obtain ⟨rfl, rfl⟩ := Prod.mk.inj h
    exact ⟨_, .minus, rfl⟩
  · obtain ⟨rfl, rfl⟩ := Prod.mk.inj h
    exact ⟨_, .plus, rfl⟩
  · obtain ⟨rfl, rfl⟩ := Prod.mk.inj h
    exact ⟨_, .none, rfl⟩

theorem exponent_append {exp : Option Int} {power : List Char} (h : WritesExponent exp power)
    (hrest : EndsNumber rest) : exponent (power ++ rest) = (exp, rest) := by
  cases h with
  | none =>
    cases rest with
    | nil => rfl
    | cons c rest =>
      obtain ⟨-, -, he, hE⟩ := hrest c rfl
      rw [List.nil_append, exponent, if_neg (not_or.mpr ⟨he, hE⟩)]
  | @some e negative sign ds letter signed digits =>
    obtain ⟨d, ds, rfl⟩ := List.exists_cons_of_ne_nil digits.1
    have hd : ∀ c ∈ ((d :: ds) ++ rest).head?, c.isDigit = true := by
      rintro c ⟨⟩
      exact digits.2 d List.mem_cons_self
    rw [List.cons_append, List.append_assoc, exponent, if_pos letter, takeSign_append signed hd]
    simp only [takeDigits_append digits.2 fun c hc => (hrest c hc).1]
    rfl

theorem writes_of_exponent {exp : Option Int} (h : exponent cs = (exp, left)) :
    ∃ power, WritesExponent exp power ∧ cs = power ++ left := by
  cases cs with
  | nil =>
    obtain ⟨rfl, rfl⟩ := Prod.mk.inj h
    exact ⟨[], .none, rfl⟩
  | cons e cs =>
    rw [exponent] at h
    split_ifs at h with letter
    · cases hsign : Number.takeSign cs with
      | mk negative body =>
        cases hdigits : Number.takeDigits body with
        | mk ds left' =>
          simp only [hsign, hdigits] at h
          obtain ⟨sign, hwrites, rfl⟩ := writes_of_takeSign hsign
          obtain ⟨rfl, hall⟩ := takeDigits_eq hdigits
          by_cases hempty : ds = []
          · subst hempty
            rw [List.isEmpty_nil, if_pos rfl] at h
            obtain ⟨rfl, rfl⟩ := Prod.mk.inj h
            exact ⟨[], .none, rfl⟩
          · rw [if_neg (by simpa using hempty)] at h
            obtain ⟨rfl, rfl⟩ := Prod.mk.inj h
            exact ⟨_, .some letter hwrites ⟨hempty, hall⟩, by simp⟩
    · obtain ⟨rfl, rfl⟩ := Prod.mk.inj h
      exact ⟨[], .none, rfl⟩

theorem readNumber_append {negative : Bool} (h : WritesNumber negative v t)
    (hrest : EndsNumber rest) : readNumber whole negative (t ++ rest) = .ok (v, rest) := by
  have hpower {exp : Option Int} {power : List Char} (hexp : WritesExponent exp power) :
      ∀ c ∈ (power ++ rest).head?, c.isDigit = false ∧ c ≠ '.' := by
    cases hexp with
    | none => exact fun c hc => ⟨(hrest c hc).1, (hrest c hc).2.1⟩
    | some letter =>
      rintro c ⟨⟩
      rcases letter with rfl | rfl <;> decide
  have hpoint {frac point power : List Char} {exp : Option Int} (hfrac : WritesFraction frac point)
      (hexp : WritesExponent exp power) :
      ∀ c ∈ (point ++ (power ++ rest)).head?, c.isDigit = false := by
    cases hfrac with
    | none => exact fun c hc => (hpower hexp c hc).1
    | some => rintro c ⟨⟩; decide
  cases h with
  | int digits short =>
    have hwhole := wholeDigits_append digits fun c hc => (hrest c hc).1
    have hfraction : fraction rest = ([], rest) := fraction_append .none (hpower .none)
    have hexponent : exponent rest = (none, rest) := exponent_append .none hrest
    rw [readNumber, hwhole]
    simp only [hfraction, hexponent, List.isEmpty_nil, Option.isNone_none, Bool.and_self, if_true,
      if_neg (Nat.not_lt.mpr short)]
    rfl
  | @float ds frac point power exp digits hfrac hexp some =>
    have hwhole := wholeDigits_append digits (hpoint hfrac hexp)
    have hfraction := fraction_append hfrac (hpower hexp)
    have hexponent := exponent_append hexp hrest
    have hreal : (frac.isEmpty && exp.isNone) = false := by
      rcases some with h | h
      · simp [h]
      · obtain ⟨e, rfl⟩ := Option.ne_none_iff_exists'.mp h
        simp
    rw [readNumber, List.append_assoc, List.append_assoc, hwhole]
    simp only [hfraction, hexponent, hreal, Bool.false_eq_true, if_false]

theorem writes_of_readNumber {negative : Bool} (h : readNumber whole negative cs = .ok (v, left)) :
    ∃ t, WritesNumber negative v t ∧ cs = t ++ left := by
  rw [readNumber] at h
  cases hwhole : wholeDigits cs with
  | none =>
    rw [hwhole] at h
    cases h
  | some x =>
    obtain ⟨ds, left₁⟩ := x
    obtain ⟨digits, rfl⟩ := isWhole_of_wholeDigits hwhole
    cases hfraction : fraction left₁ with
    | mk frac left₂ =>
      obtain ⟨point, hfrac, rfl⟩ := writes_of_fraction hfraction
      cases hexponent : exponent left₂ with
      | mk exp left₃ =>
        obtain ⟨power, hexp, rfl⟩ := writes_of_exponent hexponent
        simp only [hwhole, hfraction, hexponent] at h
        by_cases hint : (frac.isEmpty && exp.isNone) = true
        · rw [if_pos hint] at h
          rw [Bool.and_eq_true, List.isEmpty_iff, Option.isNone_iff_eq_none] at hint
          obtain ⟨rfl, rfl⟩ := hint
          cases hexp
          cases hfrac with
          | some digits => exact absurd rfl digits.1
          | none =>
            by_cases hlong : Number.maxDigits < ds.length
            · rw [if_pos hlong] at h
              cases h
            · rw [if_neg hlong] at h
              obtain ⟨rfl, rfl⟩ := Prod.mk.inj (Except.ok.inj h)
              exact ⟨ds, .int digits (Nat.le_of_not_lt hlong), rfl⟩
        · rw [if_neg hint] at h
          obtain ⟨rfl, rfl⟩ := Prod.mk.inj (Except.ok.inj h)
          refine ⟨_, .float digits hfrac hexp ?_, by simp⟩
          simpa [Classical.or_iff_not_imp_left] using hint

/-! ## Values that hold no others -/

/-- A value that is no list and no object. -/
inductive WritesScalar : Json → List Char → Prop
  | null : WritesScalar .null "null".toList
  | yes : WritesScalar (.bool true) "true".toList
  | no : WritesScalar (.bool false) "false".toList
  | nan : WritesScalar (.float .nan) "NaN".toList
  | infinity : WritesScalar (.float (.inf false)) "Infinity".toList
  | minusInfinity : WritesScalar (.float (.inf true)) "-Infinity".toList
  | number {v : Json} {t : List Char} (h : WritesNumber false v t) : WritesScalar v t
  | minus {v : Json} {t : List Char} (h : WritesNumber true v t) : WritesScalar v ('-' :: t)
  | str {ps : List Piece} {body : List Char} (h : Quoted ps body) :
      WritesScalar (.str (.ofCodes (codes ps))) ('"' :: (body ++ ['"']))

theorem WritesNumber.exists_digit {negative : Bool} (h : WritesNumber negative v t) :
    ∃ d cs, t = d :: cs ∧ d.isDigit = true := by
  have hwhole {ds : List Char} (h : IsWhole ds) : ∃ d cs, ds = d :: cs ∧ d.isDigit = true := by
    cases h with
    | zero => exact ⟨'0', [], rfl, rfl⟩
    | more _ first => exact ⟨_, _, rfl, first⟩
  cases h with
  | int digits => exact hwhole digits
  | float digits =>
    obtain ⟨d, cs, rfl, hd⟩ := hwhole digits
    exact ⟨d, _, rfl, hd⟩

theorem readScalar_of_digit {d : Char} (h : d.isDigit = true) :
    readScalar [] (d :: cs) = readNumber (d :: cs) false (d :: cs) := by
  rw [readScalar]
  all_goals
    intro left heq
    obtain ⟨rfl, -⟩ := List.cons.inj heq
    exact absurd h (by decide)

theorem readScalar_of_minus {d : Char} (h : d.isDigit = true) :
    readScalar [] ('-' :: d :: cs) = readNumber ('-' :: d :: cs) true (d :: cs) := by
  rw [readScalar]
  intro left heq
  obtain ⟨rfl, -⟩ := List.cons.inj heq
  exact absurd h (by decide)

theorem readScalar_append (h : WritesScalar v t) (hrest : EndsNumber rest) :
    readScalar [] (t ++ rest) = .ok (v, rest) := by
  cases h with
  | null | yes | no | nan | infinity | minusInfinity => rfl
  | number h =>
    obtain ⟨d, cs, rfl, hd⟩ := h.exists_digit
    exact (readScalar_of_digit hd).trans (readNumber_append h hrest)
  | minus h =>
    obtain ⟨d, cs, rfl, hd⟩ := h.exists_digit
    exact (readScalar_of_minus hd).trans (readNumber_append h hrest)
  | @str ps body h =>
    rw [List.cons_append, List.append_assoc, List.singleton_append, readScalar,
      readString_of_quoted h]
    rfl

theorem writes_of_readScalar (h : readScalar [] cs = .ok (v, left)) :
    ∃ t, WritesScalar v t ∧ cs = t ++ left := by
  rw [readScalar.eq_def] at h
  split at h
  · obtain ⟨⟨s, left'⟩, hread, heq⟩ := Except.map_eq_ok h
    obtain ⟨rfl, rfl⟩ := Prod.mk.inj heq
    obtain ⟨ps, body, hbody, rfl, rfl⟩ := quoted_of_readString hread
    exact ⟨_, .str hbody, by simp⟩
  · obtain ⟨rfl, rfl⟩ := Prod.mk.inj (Except.ok.inj h)
    exact ⟨_, .null, rfl⟩
  · obtain ⟨rfl, rfl⟩ := Prod.mk.inj (Except.ok.inj h)
    exact ⟨_, .yes, rfl⟩
  · obtain ⟨rfl, rfl⟩ := Prod.mk.inj (Except.ok.inj h)
    exact ⟨_, .no, rfl⟩
  · obtain ⟨rfl, rfl⟩ := Prod.mk.inj (Except.ok.inj h)
    exact ⟨_, .nan, rfl⟩
  · obtain ⟨rfl, rfl⟩ := Prod.mk.inj (Except.ok.inj h)
    exact ⟨_, .infinity, rfl⟩
  · obtain ⟨rfl, rfl⟩ := Prod.mk.inj (Except.ok.inj h)
    exact ⟨_, .minusInfinity, rfl⟩
  · obtain ⟨t, hnumber, rfl⟩ := writes_of_readNumber h
    exact ⟨_, .minus hnumber, rfl⟩
  · obtain ⟨t, hnumber, rfl⟩ := writes_of_readNumber h
    exact ⟨_, .number hnumber, rfl⟩

end Json
end RegistryAuth
