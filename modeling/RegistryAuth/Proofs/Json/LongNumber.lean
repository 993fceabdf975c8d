import RegistryAuth.Proofs.Json.Grammar

/-!
# Numbers that are too long in a document

The reading of a document breaks off at the first whole number of more than 4300 digits, unless
something else is wrong before it.  `Json.Meets` says on which texts that is so: up to the number,
the text is written as a document is, and what stands behind the number may be anything.
A text breaks off so exactly if it meets such a number behind its blanks
(`Json.parse_eq_number_iff`).

## Why what stands right behind it counts

A number with a fraction or an exponent is no whole number, and may have any number of digits.  So
neither of them may begin behind the digits (`Json.EndsWhole`).
-/

namespace RegistryAuth
namespace Json

variable {whole cs left rest t : List Char} {n : Nat} {e : NumberError}

/-! ## The number -/

/-- What follows does not make another number of a whole one. -/
structure EndsWhole (rest : List Char) : Prop where
  digit : ∀ c ∈ rest.head?, c.isDigit = false
  fraction : ∀ ds point left, WritesFraction ds point → rest = point ++ left → ds = []
  exponent : ∀ exp power left, WritesExponent exp power → rest = power ++ left → exp = none

/-- Digits are taken as far as they go. -/
theorem takeDigits_fst_ne_nil {d : Char} (h : d.isDigit = true) (cs : List Char) :
    (Number.takeDigits (d :: cs)).1 ≠ [] := by
  rw [Number.takeDigits, List.takeWhile_cons_of_pos h]
  exact List.cons_ne_nil _ _

theorem EndsWhole.fraction_eq (h : EndsWhole rest) : Json.fraction rest = ([], rest) := by
  cases hread : Json.fraction rest with
  | mk ds left =>
    obtain ⟨point, hwrites, rfl⟩ := writes_of_fraction hread
    obtain rfl := h.fraction _ _ _ hwrites rfl
    cases hwrites with
    | none => rfl
    | some digits => exact absurd rfl digits.1

theorem EndsWhole.exponent_eq (h : EndsWhole rest) : Json.exponent rest = (none, rest) := by
  cases hread : Json.exponent rest with
  | mk exp left =>
    obtain ⟨power, hwrites, rfl⟩ := writes_of_exponent hread
    obtain rfl := h.exponent _ _ _ hwrites rfl
    cases hwrites
    rfl

theorem endsWhole_of_read (hdigit : ∀ c ∈ rest.head?, c.isDigit = false)
    (hfraction : (Json.fraction rest).1 = []) (hexponent : (Json.exponent rest).1 = none) :
    EndsWhole rest := by
  refine ⟨hdigit, fun ds point left hwrites heq => ?_, fun exp power left hwrites heq => ?_⟩
  · cases hwrites with
    | none => rfl
    | some digits =>
      obtain ⟨d, ds, rfl⟩ := List.exists_cons_of_ne_nil digits.1
      have hd := digits.2 d List.mem_cons_self
      rw [heq, List.cons_append, List.cons_append, Json.fraction, if_pos hd] at hfraction
      exact absurd hfraction (takeDigits_fst_ne_nil hd _)
  · cases hwrites with
    | none => rfl
    | @some e negative sign ds letter signed digits =>
      obtain ⟨d, ds, rfl⟩ := List.exists_cons_of_ne_nil digits.1
      have hd := digits.2 d List.mem_cons_self
      have hhead : ∀ c ∈ (d :: (ds ++ left)).head?, c.isDigit = true := by
        rintro c ⟨⟩
        exact hd
      rw [heq, List.cons_append, List.append_assoc, List.cons_append, Json.exponent,
        if_pos letter, takeSign_append signed hhead] at hexponent
      simp only [List.isEmpty_iff, takeDigits_fst_ne_nil hd, if_false] at hexponent
      cases hexponent

theorem readNumber_of_long {negative : Bool} {ds : List Char} (digits : IsWhole ds)
    (long : Number.maxDigits < ds.length) (ends : EndsWhole rest) :
    readNumber whole negative (ds ++ rest) = .error (.number (.tooLong ds.length)) := by
  rw [readNumber, wholeDigits_append digits ends.digit]
  simp only [ends.fraction_eq, ends.exponent_eq, List.isEmpty_nil, Option.isNone_none,
    Bool.and_self, if_true, if_pos long]

theorem head_of_wholeDigits {ds : List Char} (h : wholeDigits cs = some (ds, left))
    (long : 1 < ds.length) : ∀ c ∈ left.head?, c.isDigit = false := by
  cases cs with
  | nil => cases h
  | cons c cs =>
    rw [wholeDigits] at h
    split_ifs at h with hzero hdigit
    · obtain ⟨rfl, -⟩ := Prod.mk.inj (Option.some.inj h)
      exact absurd long (by decide)
    · obtain ⟨-, rfl⟩ := Prod.mk.inj (Option.some.inj h)
      intro d hd
      have hnot := List.head?_dropWhile_not Char.isDigit (c :: cs)
      rw [Option.mem_def.mp hd] at hnot
      simpa using hnot

theorem long_of_readNumber {negative : Bool}
    (h : readNumber whole negative cs = .error (.number e)) :
    ∃ ds rest, IsWhole ds ∧ Number.maxDigits < ds.length ∧ EndsWhole rest ∧ cs = ds ++ rest ∧
      e = .tooLong ds.length := by
  rw [readNumber] at h
  cases hwhole : wholeDigits cs with
  | none =>
    rw [hwhole] at h
    cases h
  | some x =>
    obtain ⟨ds, left⟩ := x
    obtain ⟨digits, rfl⟩ := isWhole_of_wholeDigits hwhole
    rw [hwhole] at h
    dsimp only at h
    split at h
    · rename_i hint
      rw [Bool.and_eq_true, List.isEmpty_iff, Option.isNone_iff_eq_none] at hint
      split at h
      · rename_i long
        obtain rfl := Failure.number.inj (Except.error.inj h)
        have hfraction : Json.fraction left = ([], left) := by
          obtain ⟨point, hwrites, heq⟩ := writes_of_fraction (Prod.eta (Json.fraction left)).symm
          rw [hint.1] at hwrites
          cases hwrites with
          | none => exact Prod.ext hint.1 heq.symm
          | some digits => exact absurd rfl digits.1
        have hexponent := hint.2
        rw [hfraction] at hexponent
        have hone : 1 < ds.length := Nat.lt_trans (by decide) long
        exact ⟨ds, left, digits, long, endsWhole_of_read (head_of_wholeDigits hwhole hone)
          hint.1 hexponent, rfl, rfl⟩
      · cases h
    · cases h

/-! ## Where it stands -/

/-- What is read where the number is met: a value, the items of a list, or the members of an
object. -/
inductive Site where
  | value
  | items
  | members

/-- The text is written as a document is, up to a whole number of `n` digits that is too long. -/
inductive Meets (n : Nat) : Site → List Char → Prop
  | number {sign ds rest : List Char} (signed : sign = [] ∨ sign = ['-']) (digits : IsWhole ds)
      (long : Number.maxDigits < ds.length) (length : ds.length = n) (ends : EndsWhole rest) :
      Meets n .value (sign ++ (ds ++ rest))
  | list {space t : List Char} (blank : IsSpaces space) (inside : Meets n .items t) :
      Meets n .value ('[' :: (space ++ t))
  | object {space t : List Char} (blank : IsSpaces space) (inside : Meets n .members t) :
      Meets n .value (Char.ofNat 123 :: (space ++ t))
  | firstItem {t : List Char} (first : Meets n .value t) : Meets n .items t
  | item {v : Json} {t ts space space' : List Char} (first : Writes (.value v) t)
      (blank : IsSpaces space) (blank' : IsSpaces space') (more : Meets n .items ts) :
      Meets n .items (t ++ (space ++ ',' :: (space' ++ ts)))
  | firstMember {ps : List Piece} {name t space space' : List Char} (quoted : Quoted ps name)
      (blank : IsSpaces space) (blank' : IsSpaces space') (first : Meets n .value t) :
      Meets n .members ('"' :: (name ++ '"' :: (space ++ ':' :: (space' ++ t))))
  | member {ps : List Piece} {v : Json} {name t ts space space' space'' next : List Char}
      (quoted : Quoted ps name) (blank : IsSpaces space) (blank' : IsSpaces space')
      (first : Writes (.value v) t) (blank'' : IsSpaces space'') (blankNext : IsSpaces next)
      (more : Meets n .members ts) :
      Meets n .members ('"' :: (name ++ '"' ::
        (space ++ ':' :: (space' ++ (t ++ (space'' ++ ',' :: (next ++ ts)))))))

/-- Where a value is read, the text begins with a sign that is no blank, closes no list and is no
byte-order mark. -/
theorem Meets.head (h : Meets n .value t) :
    ∃ c cs, t = c :: cs ∧ isSpace c = false ∧ c ≠ ']' ∧ c ≠ Char.ofNat 0xFEFF := by
  cases h with
  | @number sign ds rest signed digits =>
    rcases signed with rfl | rfl
    · have hdigit {d : Char} (hd : d.isDigit = true) : BeginsScalar d :=
        Char.forall_ascii (P := fun d => d.isDigit = true → BeginsScalar d) (by decide)
          (Unicode.toNat_lt_of_isDigit hd) hd
      cases digits with
      | zero => exact ⟨_, _, rfl, by decide⟩
      | more nonzero first =>
        obtain ⟨hspace, -, hend, -, hmark⟩ := hdigit first
        exact ⟨_, _, rfl, hspace, hend, hmark⟩
    · exact ⟨_, _, rfl, by decide⟩
  | list | object => exact ⟨_, _, rfl, by decide⟩

theorem Meets.items_head (h : Meets n .items t) :
    ∃ c cs, t = c :: cs ∧ isSpace c = false ∧ c ≠ ']' := by
  cases h with
  | firstItem first =>
    obtain ⟨c, cs, rfl, hspace, hend, -⟩ := first.head
    exact ⟨c, cs, rfl, hspace, hend⟩
  | item first =>
    obtain ⟨c, cs, rfl, hspace, hend, -⟩ := first.head
    exact ⟨c, _, rfl, hspace, hend⟩

theorem Meets.members_head (h : Meets n .members t) : ∃ cs, t = '"' :: cs := by
  cases h <;> exact ⟨_, rfl⟩

/-! ## The reading breaks off -/

section Steps

variable {fuel : Nat} {name : List Code} {body next more : List Char} {v : Json} {f : Failure}

theorem readItems_of_value_error (h : readValue [] fuel cs = .error f) :
    readItems [] (fuel + 1) cs = .error f := by
  rw [readItems, h]
  rfl

theorem readItems_of_more_error (hv : readValue [] fuel cs = .ok (v, left))
    (hleft : skipSpace left = ',' :: next)
    (hmore : readItems [] fuel (skipSpace next) = .error f) :
    readItems [] (fuel + 1) cs = .error f := by
  simp only [readItems, hv, bind, Except.bind, hleft, hmore]

theorem readMembers_of_value_error (hname : readString [] ('"' :: cs) cs = .ok (name, left))
    (hcolon : skipSpace left = ':' :: body)
    (hv : readValue [] fuel (skipSpace body) = .error f) :
    readMembers [] (fuel + 1) ('"' :: cs) = .error f := by
  simp only [readMembers, hname, bind, Except.bind, hcolon, hv]

theorem readMembers_of_more_error (hname : readString [] ('"' :: cs) cs = .ok (name, left))
    (hcolon : skipSpace left = ':' :: body)
    (hv : readValue [] fuel (skipSpace body) = .ok (v, more))
    (hmore : skipSpace more = ',' :: next)
    (hms : readMembers [] fuel (skipSpace next) = .error f) :
    readMembers [] (fuel + 1) ('"' :: cs) = .error f := by
  simp only [readMembers, hname, bind, Except.bind, hcolon, hv, hmore]
  rw [if_neg (by decide), if_pos trivial, hms]

theorem readValue_of_items_error {c : Char} (hcs : skipSpace cs = c :: left) (hc : c ≠ ']')
    (h : readItems [] fuel (c :: left) = .error f) :
    readValue [] (fuel + 1) ('[' :: cs) = .error f := by
  rw [readValue, if_pos rfl, hcs]
  split
  · rename_i heq
    exact absurd (List.cons.inj heq).1 hc
  · rw [h]
    rfl

theorem readValue_of_members_error (hcs : skipSpace cs = '"' :: left)
    (h : readMembers [] fuel ('"' :: left) = .error f) :
    readValue [] (fuel + 1) (Char.ofNat 123 :: cs) = .error f := by
  rw [readValue, if_neg (by decide), if_pos (by decide), hcs]
  simp only
  rw [if_neg (by decide), h]
  rfl

end Steps

/-- The reading of such a text breaks off.  Two calls for each character are enough. -/
def Site.BreaksOff (n : Nat) (t : List Char) : Site → Prop
  | .value => ∀ fuel, 2 * t.length ≤ fuel → readValue [] fuel t = .error (.number (.tooLong n))
  | .items => ∀ fuel, 2 * t.length < fuel → readItems [] fuel t = .error (.number (.tooLong n))
  | .members =>
    ∀ fuel, 2 * t.length ≤ fuel → readMembers [] fuel t = .error (.number (.tooLong n))

theorem readValue_of_number {sign ds : List Char} (signed : sign = [] ∨ sign = ['-'])
    (digits : IsWhole ds) (long : Number.maxDigits < ds.length) (ends : EndsWhole rest)
    (fuel : Nat) :
    readValue [] (fuel + 1) (sign ++ (ds ++ rest)) = .error (.number (.tooLong ds.length)) := by
  obtain ⟨d, ds', rfl, hd⟩ : ∃ d ds', ds = d :: ds' ∧ d.isDigit = true := by
    cases digits with
    | zero => exact ⟨_, _, rfl, rfl⟩
    | more _ first => exact ⟨_, _, rfl, first⟩
  obtain ⟨-, hlist, -, hobject, -⟩ : BeginsScalar d :=
    Char.forall_ascii (P := fun d => d.isDigit = true → BeginsScalar d) (by decide)
      (Unicode.toNat_lt_of_isDigit hd) hd
  rcases signed with rfl | rfl
  · rw [List.nil_append, List.cons_append, readValue, if_neg hlist, if_neg hobject,
      readScalar_of_digit hd, ← List.cons_append, readNumber_of_long digits long ends]
  · rw [List.singleton_append, readValue, if_neg (by decide), if_neg (by decide), List.cons_append,
      readScalar_of_minus hd, ← List.cons_append, readNumber_of_long digits long ends]

/-- **At a number that is too long, the reading breaks off**, whatever follows. -/
theorem Meets.breaksOff {site : Site} (h : Meets n site t) : site.BreaksOff n t := by
  induction h with
  | @number sign ds rest signed digits long length ends =>
    rintro (- | fuel) hfuel
    · simp only [List.length_append] at hfuel
      omega
    · rw [readValue_of_number signed digits long ends, length]
  | list blank inside ih =>
    rintro (- | fuel) hfuel
    · simp at hfuel
    · simp only [List.length_cons, List.length_append] at hfuel
      have hitems := ih fuel (by omega)
      obtain ⟨c, cs, rfl, hspace, hend⟩ := inside.items_head
      exact readValue_of_items_error (skipSpace_spaces blank hspace) hend hitems
  | object blank inside ih =>
    rintro (- | fuel) hfuel
    · simp at hfuel
    · simp only [List.length_cons, List.length_append] at hfuel
      have hmembers := ih fuel (by omega)
      obtain ⟨cs, rfl⟩ := inside.members_head
      exact readValue_of_members_error (skipSpace_spaces blank (by decide)) hmembers
  | firstItem first ih =>
    rintro (- | fuel) hfuel
    · simp at hfuel
    · exact readItems_of_value_error (ih fuel (by omega))
  | @item v t ts space space' first blank blank' more ih =>
    rintro (- | fuel) hfuel
    · simp at hfuel
    · simp only [List.length_append, List.length_cons] at hfuel
      have hvalue := first.isReadFrom fuel (space ++ ',' :: (space' ++ ts)) (by omega)
        (.of_spaces blank (.inl rfl))
      have hmore := ih fuel (by omega)
      obtain ⟨c, cs, rfl, hspace, -⟩ := more.items_head
      refine readItems_of_more_error hvalue (skipSpace_spaces blank (by decide)) ?_
      rwa [skipSpace_spaces blank' hspace]
  | @firstMember ps name t space space' quoted blank blank' first ih =>
    rintro (- | fuel) hfuel
    · simp at hfuel
    · simp only [List.length_append, List.length_cons] at hfuel
      have hvalue := ih fuel (by omega)
      obtain ⟨c, cs, rfl, hspace, -⟩ := first.head
      refine readMembers_of_value_error (readString_of_quoted quoted)
        (skipSpace_spaces blank (by decide)) ?_
      rwa [skipSpace_spaces blank' hspace]
  | @member ps v name t ts space space' space'' next quoted blank blank' first blank'' blankNext
      more ih =>
    rintro (- | fuel) hfuel
    · simp at hfuel
    · simp only [List.length_append, List.length_cons] at hfuel
      have hvalue := first.isReadFrom fuel (space'' ++ ',' :: (next ++ ts)) (by omega)
        (.of_spaces blank'' (.inl rfl))
      have hmore := ih fuel (by omega)
      obtain ⟨c, cs, rfl, hspace, -⟩ := first.head
      obtain ⟨ds, rfl⟩ := more.members_head
      rw [List.cons_append, ← skipSpace_spaces blank' hspace] at hvalue
      rw [← skipSpace_spaces blankNext (show isSpace '"' = false by decide)] at hmore
      exact readMembers_of_more_error (readString_of_quoted quoted)
        (skipSpace_spaces blank (by decide)) hvalue (skipSpace_spaces blank'' (by decide)) hmore

/-! ## What breaks off meets a number -/

/-- No text in quotes holds a number. -/
theorem readString_ne_number (halves : Halves) (whole cs : List Char) (e : NumberError) :
    readString halves whole cs ≠ .error (.number e) := by
  have hprepend {c : Code} {r : Read (List Code)} (h : r ≠ .error (.number e)) :
      prepend c r ≠ .error (.number e) := by
    intro heq
    cases r with
    | ok => cases heq
    | error f => exact h (congrArg _ (Except.error.inj heq))
  fun_induction readString halves whole cs
  case case6 ih => exact hprepend ih
  case case7 ih => exact hprepend ih
  case case8 ih => exact hprepend ih
  case case10 ih => exact hprepend ih
  case case12 ih => exact hprepend ih
  case case15 ih => exact hprepend ih
  all_goals
    intro h
    cases h

theorem meets_of_readScalar (h : readScalar [] cs = .error (.number e)) :
    ∃ n, e = .tooLong n ∧ Meets n .value cs := by
  rw [readScalar.eq_def] at h
  split at h
  · rename_i rest
    cases hread : readString [] ('"' :: rest) rest with
    | ok x =>
      rw [hread] at h
      cases h
    | error f =>
      rw [hread] at h
      obtain rfl := Except.error.inj h
      exact absurd hread (readString_ne_number _ _ _ _)
  · cases h
  · cases h
  · cases h
  · cases h
  · cases h
  · cases h
  · obtain ⟨ds, rest, digits, long, ends, rfl, rfl⟩ := long_of_readNumber h
    exact ⟨_, rfl, .number (.inr rfl) digits long rfl ends⟩
  · obtain ⟨ds, rest, digits, long, ends, rfl, rfl⟩ := long_of_readNumber h
    exact ⟨_, rfl, .number (.inl rfl) digits long rfl ends⟩

mutual

theorem meets_of_readValue : ∀ (fuel : Nat) {cs : List Char},
    readValue [] fuel cs = .error (.number e) → ∃ n, e = .tooLong n ∧ Meets n .value cs
  | 0, _, h => nomatch h
  | fuel + 1, [], h => nomatch h
  | fuel + 1, c :: cs, h => by
    rw [readValue] at h
    split at h
    · rename_i hlist
      subst hlist
      split at h
      · cases h
      · obtain ⟨n, rfl, inside⟩ := meets_of_readItems fuel (Except.map_eq_error h)
        obtain ⟨space, blank, hcs⟩ := exists_spaces cs
        rw [hcs]
        exact ⟨n, rfl, .list blank inside⟩
    · split at h
      · rename_i hobject
        have hc : c = Char.ofNat 123 := by rw [← hobject, Char.ofNat_toNat]
        subst hc
        split at h
        · cases h
        · rename_i d next heq
          split at h
          · cases h
          · obtain ⟨n, rfl, inside⟩ := meets_of_readMembers fuel (Except.map_eq_error h)
            obtain ⟨space, blank, rfl⟩ := exists_spaces_of_eq heq
            exact ⟨n, rfl, .object blank inside⟩
      · exact meets_of_readScalar h

theorem meets_of_readItems : ∀ (fuel : Nat) {cs : List Char},
    readItems [] fuel cs = .error (.number e) → ∃ n, e = .tooLong n ∧ Meets n .items cs
  | 0, _, h => nomatch h
  | fuel + 1, cs, h => by
    rw [readItems] at h
    cases hread : readValue [] fuel cs with
    | error f =>
      rw [hread] at h
      obtain rfl := Except.error.inj h
      obtain ⟨n, rfl, first⟩ := meets_of_readValue fuel hread
      exact ⟨n, rfl, .firstItem first⟩
    | ok x =>
      obtain ⟨v, left⟩ := x
      obtain ⟨t, first, rfl⟩ := writes_of_readValue fuel hread
      simp only [hread, bind, Except.bind] at h
      split at h
      · cases h
      · rename_i left' heq
        obtain ⟨space, blank, rfl⟩ := exists_spaces_of_eq heq
        have hmore : readItems [] fuel (skipSpace left') = .error (.number e) := by
          split at h
          · rename_i herror
            rw [herror, Except.error.inj h]
          · cases h
        obtain ⟨n, rfl, more⟩ := meets_of_readItems fuel hmore
        obtain ⟨space', blank', hleft⟩ := exists_spaces left'
        rw [hleft]
        exact ⟨n, rfl, .item first blank blank' more⟩
      · cases h

theorem meets_of_readMembers : ∀ (fuel : Nat) {cs : List Char},
    readMembers [] fuel cs = .error (.number e) → ∃ n, e = .tooLong n ∧ Meets n .members cs
  | 0, _, h => nomatch h
  | fuel + 1, cs, h => by
    rw [readMembers.eq_def] at h
    dsimp only at h
    split at h
    · rename_i cs
      cases hname : readString [] ('"' :: cs) cs with
      | error f =>
        rw [hname] at h
        obtain rfl := Except.error.inj h
        exact absurd hname (readString_ne_number _ _ _ _)
      | ok x =>
        obtain ⟨name, left⟩ := x
        obtain ⟨ps, body, quoted, rfl, rfl⟩ := quoted_of_readString hname
        simp only [hname, bind, Except.bind] at h
        split at h
        · rename_i left₁ heq
          obtain ⟨space, blank, rfl⟩ := exists_spaces_of_eq heq
          obtain ⟨space', blank', hbody⟩ := exists_spaces left₁
          cases hread : readValue [] fuel (skipSpace left₁) with
          | error f =>
            rw [hread] at h
            obtain rfl := Except.error.inj h
            obtain ⟨n, rfl, first⟩ := meets_of_readValue fuel hread
            rw [hbody]
            exact ⟨n, rfl, .firstMember quoted blank blank' first⟩
          | ok y =>
            obtain ⟨v, left₂⟩ := y
            obtain ⟨t, first, ht⟩ := writes_of_readValue fuel hread
            simp only [hread] at h
            split at h
            · cases h
            · rename_i c left₃ heq'
              obtain ⟨space'', blank'', rfl⟩ := exists_spaces_of_eq heq'
              split at h
              · cases h
              · split at h
                · rename_i hcomma
                  subst hcomma
                  have hmore : readMembers [] fuel (skipSpace left₃) = .error (.number e) := by
                    split at h
                    · rename_i herror
                      rw [herror, Except.error.inj h]
                    · cases h
                  obtain ⟨n, rfl, more⟩ := meets_of_readMembers fuel hmore
                  obtain ⟨next, blankNext, hleft⟩ := exists_spaces left₃
                  rw [hbody, ht, hleft]
                  exact ⟨n, rfl, .member quoted blank blank' first blank'' blankNext more⟩
                · cases h
        · cases h
    · cases h

end

/-! ## Documents -/

/-- The text meets, behind its blanks, a whole number of `n` digits that is too long. -/
def MeetsLong (cs : List Char) (n : Nat) : Prop :=
  ∃ space t, IsSpaces space ∧ Meets n .value t ∧ cs = space ++ t

/-- **Where a number is too long.**  The reading of a document breaks off at such a number exactly
if the text meets one. -/
theorem parse_eq_number_iff {s : String} :
    parse s = .error (.number e) ↔ ∃ n, e = .tooLong n ∧ MeetsLong s.toList n := by
  have hlocate {f : Failure} {cs : List Char} :
      f.locate cs = .number e ↔ f = .number e := by
    cases f with
    | «at» fault left => simp [Failure.locate]
    | number e' => simp [Failure.locate]
  rw [parse]
  constructor
  · intro h
    split at h
    · cases h
    · rw [parseChars] at h
      split at h
      · rename_i f hread
        obtain rfl := hlocate.mp (Except.error.inj h)
        obtain ⟨n, rfl, hmeets⟩ := meets_of_readValue _ hread
        obtain ⟨space, blank, hcs⟩ := exists_spaces s.toList
        exact ⟨n, rfl, space, _, blank, hmeets, hcs⟩
      · split at h
        · cases h
        · cases h
  · rintro ⟨n, rfl, space, t, blank, hmeets, hcs⟩
    obtain ⟨c, cs, rfl, hspace, -, hmark⟩ := hmeets.head
    have hfront : s.toList.head? ≠ some (Char.ofNat 0xFEFF) := by
      rw [hcs]
      cases space with
      | nil => exact fun h => hmark (Option.some.inj h)
      | cons b space =>
        rintro ⟨⟩
        exact absurd (blank _ List.mem_cons_self) (by decide)
    have hread := hmeets.breaksOff (2 * s.toList.length + 2) (by
      rw [hcs, List.length_append]
      omega)
    rw [if_neg hfront, parseChars, hcs, skipSpace_spaces blank hspace, ← hcs, hread]
    rfl

end Json
end RegistryAuth
