import RegistryAuth.Proofs.Json.Scalars

/-!
# The grammar of documents

Which texts are documents, said without a reader: a value, with the items or the members inside it
(`Json.Writes`).  Members are listed as they are written, with repetitions; what object they make is
for `Json.ofMembers` to say.

A text is read as a value exactly if it writes that value, between blanks
(`Json.parse_eq_ok_iff`).  What is written is read by induction on how it is written
(`Json.Writes.isReadFrom`), and what is read is written by induction on the calls
(`Json.writes_of_readValue`).

## Why the calls are enough

A list reads its first item without taking a character of its own, and so two calls are counted
for each character (`Json.Part.IsReadFrom`).
-/

namespace RegistryAuth
namespace Json

variable {cs left rest t : List Char} {v : Json}

/-! ## All values -/

/-- Blanks between the parts of a document. -/
def IsSpaces (cs : List Char) : Prop := ∀ c ∈ cs, isSpace c = true

/-- What a text can write: a value, the items of a list, or the members of an object as they
stand there. -/
inductive Part where
  | value (v : Json)
  | items (vs : List Json)
  | members (ms : List (CodeText × Json))

/-- The text writes the part. -/
inductive Writes : Part → List Char → Prop
  | scalar {v : Json} {t : List Char} (h : WritesScalar v t) : Writes (.value v) t
  | emptyList {space : List Char} (blank : IsSpaces space) :
      Writes (.value (.arr [])) ('[' :: (space ++ [']']))
  | list {vs : List Json} {space t : List Char} (blank : IsSpaces space)
      (inside : Writes (.items vs) t) : Writes (.value (.arr vs)) ('[' :: (space ++ (t ++ [']'])))
  | emptyObject {space : List Char} (blank : IsSpaces space) :
      Writes (.value (.obj [])) (Char.ofNat 123 :: (space ++ [Char.ofNat 125]))
  | object {ms : List (CodeText × Json)} {space t : List Char} (blank : IsSpaces space)
      (inside : Writes (.members ms) t) :
      Writes (.value (ofMembers ms)) (Char.ofNat 123 :: (space ++ (t ++ [Char.ofNat 125])))
  | lastItem {v : Json} {t space : List Char} (first : Writes (.value v) t)
      (blank : IsSpaces space) : Writes (.items [v]) (t ++ space)
  | item {v : Json} {vs : List Json} {t ts space space' : List Char}
      (first : Writes (.value v) t) (blank : IsSpaces space) (blank' : IsSpaces space')
      (more : Writes (.items vs) ts) :
      Writes (.items (v :: vs)) (t ++ (space ++ ',' :: (space' ++ ts)))
  | lastMember {ps : List Piece} {v : Json} {name t space space' space'' : List Char}
      (quoted : Quoted ps name) (blank : IsSpaces space) (blank' : IsSpaces space')
      (first : Writes (.value v) t) (blank'' : IsSpaces space'') :
      Writes (.members [(.ofCodes (codes ps), v)])
        ('"' :: (name ++ '"' :: (space ++ ':' :: (space' ++ (t ++ space'')))))
  | member {ps : List Piece} {v : Json} {ms : List (CodeText × Json)}
      {name t ts space space' space'' more : List Char}
      (quoted : Quoted ps name) (blank : IsSpaces space) (blank' : IsSpaces space')
      (first : Writes (.value v) t) (blank'' : IsSpaces space'') (blankMore : IsSpaces more)
      (rest : Writes (.members ms) ts) :
      Writes (.members ((.ofCodes (codes ps), v) :: ms))
        ('"' :: (name ++ '"' ::
          (space ++ ':' :: (space' ++ (t ++ (space'' ++ ',' :: (more ++ ts)))))))

/-- What follows a value in a document. -/
def EndsValue (rest : List Char) : Prop :=
  ∀ c ∈ rest.head?, isSpace c = true ∨ c = ',' ∨ c = ']' ∨ c = Char.ofNat 125

theorem EndsValue.endsNumber (h : EndsValue rest) : EndsNumber rest := by
  intro c hc
  rcases h c hc with h | rfl | rfl | rfl
  · simp only [isSpace, Bool.or_eq_true, decide_eq_true_eq] at h
    rcases h with ((rfl | rfl) | rfl) | rfl <;> decide
  all_goals decide

theorem skipSpace_eq_self {c : Char} (h : isSpace c = false) : skipSpace (c :: cs) = c :: cs := by
  rw [skipSpace, List.dropWhile_cons_of_neg (by simp [h])]

theorem EndsValue.of_spaces {space : List Char} {c : Char} (h : IsSpaces space)
    (hc : c = ',' ∨ c = ']' ∨ c = Char.ofNat 125) : EndsValue (space ++ c :: rest) := by
  cases space with
  | nil =>
    rintro d ⟨⟩
    exact .inr hc
  | cons b space =>
    rintro d ⟨⟩
    exact .inl (h _ List.mem_cons_self)

theorem skipSpace_append {space : List Char} (h : IsSpaces space) (cs : List Char) :
    skipSpace (space ++ cs) = skipSpace cs := by
  rw [skipSpace, List.dropWhile_append_of_pos h]
  rfl

theorem skipSpace_spaces {space : List Char} {c : Char} (h : IsSpaces space)
    (hc : isSpace c = false) : skipSpace (space ++ c :: cs) = c :: cs := by
  rw [skipSpace_append h, skipSpace_eq_self hc]

theorem exists_spaces (cs : List Char) : ∃ space, IsSpaces space ∧ cs = space ++ skipSpace cs :=
  ⟨cs.takeWhile isSpace, fun _ hc => List.mem_takeWhile_imp hc,
    List.takeWhile_append_dropWhile.symm⟩

theorem exists_spaces_of_eq (h : skipSpace cs = left) :
    ∃ space, IsSpaces space ∧ cs = space ++ left :=
  h ▸ exists_spaces cs

/-- A sign with which a value can begin that is no list and no object. -/
abbrev BeginsScalar (c : Char) : Prop :=
  isSpace c = false ∧ c ≠ '[' ∧ c ≠ ']' ∧ c.toNat ≠ 123 ∧ c ≠ Char.ofNat 0xFEFF

theorem WritesScalar.head (h : WritesScalar v t) : ∃ c cs, t = c :: cs ∧ BeginsScalar c := by
  cases h with
  | null | yes | no | nan | infinity | minusInfinity => exact ⟨_, _, rfl, by decide⟩
  | minus | str => exact ⟨_, _, rfl, by decide⟩
  | number h =>
    obtain ⟨d, cs, rfl, hd⟩ := h.exists_digit
    exact ⟨d, cs, rfl, Char.forall_ascii (P := fun d => d.isDigit = true → BeginsScalar d)
      (by decide) (Unicode.toNat_lt_of_isDigit hd) hd⟩

/-- A value begins with a sign that is no blank, closes no list and is no byte-order mark. -/
theorem Writes.head (h : Writes (.value v) t) :
    ∃ c cs, t = c :: cs ∧ isSpace c = false ∧ c ≠ ']' ∧ c ≠ Char.ofNat 0xFEFF := by
  cases h with
  | scalar h =>
    obtain ⟨c, cs, rfl, hspace, -, hend, -, hmark⟩ := h.head
    exact ⟨c, cs, rfl, hspace, hend, hmark⟩
  | emptyList | list | emptyObject | object => exact ⟨_, _, rfl, by decide⟩

theorem Writes.items_head {vs : List Json} (h : Writes (.items vs) t) :
    ∃ c cs, t = c :: cs ∧ isSpace c = false ∧ c ≠ ']' := by
  cases h with
  | lastItem first | item first =>
    obtain ⟨c, cs, rfl, hspace, hend, -⟩ := first.head
    exact ⟨c, _, rfl, hspace, hend⟩

theorem Writes.members_head {ms : List (CodeText × Json)} (h : Writes (.members ms) t) :
    ∃ cs, t = '"' :: cs := by
  cases h <;> exact ⟨_, rfl⟩

/-! ## Reading what is written -/

section Steps

variable {fuel : Nat} {name : List Code} {more body next : List Char} {vs : List Json}
  {ms : List (CodeText × Json)}

theorem readItems_last (hv : readValue [] fuel cs = .ok (v, left))
    (hleft : skipSpace left = ']' :: rest) :
    readItems [] (fuel + 1) cs = .ok ([v], rest) := by
  simp only [readItems, hv, bind, Except.bind, hleft]
  rfl

theorem readItems_more (hv : readValue [] fuel cs = .ok (v, left))
    (hleft : skipSpace left = ',' :: next)
    (hvs : readItems [] fuel (skipSpace next) = .ok (vs, rest)) :
    readItems [] (fuel + 1) cs = .ok (v :: vs, rest) := by
  simp only [readItems, hv, bind, Except.bind, hleft, hvs]
  rfl

theorem readMembers_last (hname : readString [] ('"' :: cs) cs = .ok (name, left))
    (hcolon : skipSpace left = ':' :: body)
    (hv : readValue [] fuel (skipSpace body) = .ok (v, more))
    (hmore : skipSpace more = Char.ofNat 125 :: rest) :
    readMembers [] (fuel + 1) ('"' :: cs) = .ok ([(.ofCodes name, v)], rest) := by
  rw [readMembers]
  simp only [bind, Except.bind, hname, hcolon, hv, hmore]
  rfl

theorem readMembers_more (hname : readString [] ('"' :: cs) cs = .ok (name, left))
    (hcolon : skipSpace left = ':' :: body)
    (hv : readValue [] fuel (skipSpace body) = .ok (v, more))
    (hmore : skipSpace more = ',' :: next)
    (hms : readMembers [] fuel (skipSpace next) = .ok (ms, rest)) :
    readMembers [] (fuel + 1) ('"' :: cs) = .ok ((.ofCodes name, v) :: ms, rest) := by
  rw [readMembers]
  simp only [bind, Except.bind, hname, hcolon, hv, hmore, hms]
  rfl

theorem readValue_list {c : Char} (hcs : skipSpace cs = c :: left) (hc : c ≠ ']')
    (hvs : readItems [] fuel (c :: left) = .ok (vs, rest)) :
    readValue [] (fuel + 1) ('[' :: cs) = .ok (.arr vs, rest) := by
  rw [readValue, if_pos rfl, hcs]
  split
  · rename_i heq
    exact absurd (List.cons.inj heq).1 hc
  · rw [hvs]
    rfl

theorem readValue_object (hcs : skipSpace cs = '"' :: left)
    (hms : readMembers [] fuel ('"' :: left) = .ok (ms, rest)) :
    readValue [] (fuel + 1) (Char.ofNat 123 :: cs) = .ok (ofMembers ms, rest) := by
  rw [readValue, if_neg (by decide), if_pos (by decide), hcs]
  simp only
  rw [if_neg (by decide), hms]
  rfl

theorem readValue_of_scalar (h : WritesScalar v t) (hrest : EndsValue rest) (fuel : Nat) :
    readValue [] (fuel + 1) (t ++ rest) = .ok (v, rest) := by
  obtain ⟨c, cs, rfl, -, hlist, -, hobject, -⟩ := h.head
  rw [List.cons_append, readValue, if_neg hlist, if_neg hobject]
  exact readScalar_append h hrest.endsNumber

end Steps

/-- What a reader makes of the text of a part, whatever follows.  Two calls for each character are
enough. -/
def Part.IsReadFrom (t : List Char) : Part → Prop
  | .value v => ∀ fuel rest, 2 * t.length ≤ fuel → EndsValue rest →
      readValue [] fuel (t ++ rest) = .ok (v, rest)
  | .items vs => ∀ fuel rest, 2 * t.length < fuel →
      readItems [] fuel (t ++ ']' :: rest) = .ok (vs, rest)
  | .members ms => ∀ fuel rest, 2 * t.length ≤ fuel →
      readMembers [] fuel (t ++ Char.ofNat 125 :: rest) = .ok (ms, rest)

/-- **What is written is read**, whatever follows. -/
theorem Writes.isReadFrom {p : Part} (h : Writes p t) : p.IsReadFrom t := by
  induction h with
  | scalar h =>
    rintro (- | fuel) rest hfuel hrest
    · obtain ⟨c, cs, rfl, -⟩ := h.head
      simp at hfuel
    · exact readValue_of_scalar h hrest fuel
  | emptyList blank =>
    rintro (- | fuel) rest hfuel hrest
    · simp at hfuel
    · rw [List.cons_append, List.append_assoc, readValue, if_pos rfl, List.singleton_append,
        skipSpace_spaces blank (by decide)]
      rfl
  | @list vs space t blank inside ih =>
    rintro (- | fuel) rest hfuel hrest
    · simp at hfuel
    · simp only [List.length_cons, List.length_append, List.length_nil] at hfuel
      have hitems := ih fuel rest (by omega)
      obtain ⟨c, cs, rfl, hspace, hend⟩ := inside.items_head
      simp only [List.cons_append, List.append_assoc, List.nil_append] at hitems ⊢
      exact readValue_list (skipSpace_spaces blank hspace) hend hitems
  | emptyObject blank =>
    rintro (- | fuel) rest hfuel hrest
    · simp at hfuel
    · rw [List.cons_append, List.append_assoc, readValue, if_neg (by decide), if_pos (by decide),
        List.singleton_append, skipSpace_spaces blank (by decide)]
      rfl
  | @object ms space t blank inside ih =>
    rintro (- | fuel) rest hfuel hrest
    · simp at hfuel
    · simp only [List.length_cons, List.length_append, List.length_nil] at hfuel
      have hmembers := ih fuel rest (by omega)
      obtain ⟨cs, rfl⟩ := inside.members_head
      simp only [List.cons_append, List.append_assoc, List.nil_append] at hmembers ⊢
      exact readValue_object (skipSpace_spaces blank (by decide)) hmembers
  | @lastItem v t space first blank ih =>
    rintro (- | fuel) rest hfuel
    · simp at hfuel
    · rw [List.length_append] at hfuel
      rw [List.append_assoc]
      exact readItems_last (ih fuel _ (by omega) (.of_spaces blank (.inr (.inl rfl))))
        (skipSpace_spaces blank (by decide))
  | @item v vs t ts space space' first blank blank' more ih ih' =>
    rintro (- | fuel) rest hfuel
    · simp at hfuel
    · simp only [List.length_append, List.length_cons] at hfuel
      have hvalue := ih fuel (space ++ ',' :: (space' ++ (ts ++ ']' :: rest))) (by omega)
        (.of_spaces blank (.inl rfl))
      have hmore := ih' fuel rest (by omega)
      obtain ⟨c, cs, rfl, hspace, -⟩ := more.items_head
      simp only [List.append_assoc, List.cons_append] at hvalue hmore ⊢
      refine readItems_more hvalue (skipSpace_spaces blank (by decide)) ?_
      rwa [skipSpace_spaces blank' hspace]
  | @lastMember ps v name t space space' space'' quoted blank blank' first blank'' ih =>
    rintro (- | fuel) rest hfuel
    · simp at hfuel
    · simp only [List.length_append, List.length_cons] at hfuel
      have hvalue := ih fuel (space'' ++ Char.ofNat 125 :: rest) (by omega)
        (.of_spaces blank'' (.inr (.inr rfl)))
      obtain ⟨c, cs, rfl, hspace, -⟩ := first.head
      simp only [List.append_assoc, List.cons_append] at hvalue ⊢
      refine readMembers_last (readString_of_quoted quoted) (skipSpace_spaces blank (by decide)) ?_
        (skipSpace_spaces blank'' (by decide))
      rwa [skipSpace_spaces blank' hspace]
  | @member ps v ms name t ts space space' space'' next quoted blank blank' first blank'' blankNext
      more ih ih' =>
    rintro (- | fuel) rest hfuel
    · simp at hfuel
    · simp only [List.length_append, List.length_cons] at hfuel
      have hvalue := ih fuel (space'' ++ ',' :: (next ++ (ts ++ Char.ofNat 125 :: rest)))
        (by omega) (.of_spaces blank'' (.inl rfl))
      have hmore := ih' fuel rest (by omega)
      obtain ⟨c, cs, rfl, hspace, -⟩ := first.head
      obtain ⟨ds, rfl⟩ := more.members_head
      simp only [List.append_assoc, List.cons_append] at hvalue hmore ⊢
      rw [← skipSpace_spaces blank' hspace] at hvalue
      rw [← skipSpace_spaces blankNext (show isSpace '"' = false by decide)] at hmore
      exact readMembers_more (readString_of_quoted quoted) (skipSpace_spaces blank (by decide))
        hvalue (skipSpace_spaces blank'' (by decide)) hmore

/-! ## What is read is written -/

mutual

theorem writes_of_readValue : ∀ (fuel : Nat) {cs left : List Char} {v : Json},
    readValue [] fuel cs = .ok (v, left) → ∃ t, Writes (.value v) t ∧ cs = t ++ left
  | 0, _, _, _, h => nomatch h
  | fuel + 1, [], _, _, h => nomatch h
  | fuel + 1, c :: cs, left, v, h => by
    rw [readValue] at h
    split at h
    · rename_i hlist
      subst hlist
      split at h
      · rename_i heq
        obtain ⟨space, blank, rfl⟩ := exists_spaces_of_eq heq
        obtain ⟨rfl, rfl⟩ := Prod.mk.inj (Except.ok.inj h)
        exact ⟨_, .emptyList blank, by simp⟩
      · obtain ⟨⟨vs, left'⟩, hread, heq⟩ := Except.map_eq_ok h
        obtain ⟨rfl, rfl⟩ := Prod.mk.inj heq
        obtain ⟨t, inside, ht⟩ := writes_of_readItems fuel hread
        obtain ⟨space, blank, rfl⟩ := exists_spaces_of_eq ht
        exact ⟨_, .list blank inside, by simp⟩
    · split at h
      · rename_i hobject
        have hc : c = Char.ofNat 123 := by rw [← hobject, Char.ofNat_toNat]
        subst hc
        split at h
        · cases h
        · rename_i d next heq
          split at h
          · rename_i hclose
            have hd : d = Char.ofNat 125 := by rw [← hclose, Char.ofNat_toNat]
            subst hd
            obtain ⟨space, blank, rfl⟩ := exists_spaces_of_eq heq
            obtain ⟨rfl, rfl⟩ := Prod.mk.inj (Except.ok.inj h)
            exact ⟨_, .emptyObject blank, by simp⟩
          · obtain ⟨⟨ms, left'⟩, hread, hmap⟩ := Except.map_eq_ok h
            obtain ⟨rfl, rfl⟩ := Prod.mk.inj hmap
            obtain ⟨t, inside, ht⟩ := writes_of_readMembers fuel hread
            obtain ⟨space, blank, rfl⟩ := exists_spaces_of_eq (heq.trans ht)
            exact ⟨_, .object blank inside, by simp⟩
      · obtain ⟨t, hscalar, heq⟩ := writes_of_readScalar h
        exact ⟨t, .scalar hscalar, heq⟩

theorem writes_of_readItems : ∀ (fuel : Nat) {cs left : List Char} {vs : List Json},
    readItems [] fuel cs = .ok (vs, left) → ∃ t, Writes (.items vs) t ∧ cs = t ++ ']' :: left
  | 0, _, _, _, h => nomatch h
  | fuel + 1, cs, left, vs, h => by
    rw [readItems] at h
    obtain ⟨⟨v, left₁⟩, hread, hnext⟩ := Except.bind_eq_ok h
    clear h
    obtain ⟨t, first, rfl⟩ := writes_of_readValue fuel hread
    dsimp only at hnext
    split at hnext
    · rename_i heq
      obtain ⟨space, blank, rfl⟩ := exists_spaces_of_eq heq
      obtain ⟨rfl, rfl⟩ := Prod.mk.inj (Except.ok.inj hnext)
      exact ⟨_, .lastItem first blank, by simp⟩
    · rename_i left₂ heq
      obtain ⟨space, blank, rfl⟩ := exists_spaces_of_eq heq
      obtain ⟨⟨vs', left₃⟩, hmore, hlast⟩ := Except.bind_eq_ok hnext
      obtain ⟨rfl, rfl⟩ := Prod.mk.inj (Except.ok.inj hlast)
      obtain ⟨ts, more, ht⟩ := writes_of_readItems fuel hmore
      obtain ⟨space', blank', rfl⟩ := exists_spaces_of_eq ht
      exact ⟨_, .item first blank blank' more, by simp⟩
    · cases hnext

theorem writes_of_readMembers : ∀ (fuel : Nat) {cs left : List Char} {ms : List (CodeText × Json)},
    readMembers [] fuel cs = .ok (ms, left) →
      ∃ t, Writes (.members ms) t ∧ cs = t ++ Char.ofNat 125 :: left
  | 0, _, _, _, h => nomatch h
  | fuel + 1, cs, left, ms, h => by
    rw [readMembers.eq_def] at h
    dsimp only at h
    split at h
    · rename_i cs
      obtain ⟨⟨name, left₁⟩, hname, hcolon⟩ := Except.bind_eq_ok h
      clear h
      obtain ⟨ps, body, quoted, rfl, rfl⟩ := quoted_of_readString hname
      dsimp only at hcolon
      split at hcolon
      · rename_i left₂ heq
        obtain ⟨space, blank, rfl⟩ := exists_spaces_of_eq heq
        obtain ⟨⟨v, left₃⟩, hread, hnext⟩ := Except.bind_eq_ok hcolon
        clear hcolon
        obtain ⟨t, first, ht⟩ := writes_of_readValue fuel hread
        obtain ⟨space', blank', rfl⟩ := exists_spaces_of_eq ht
        dsimp only at hnext
        split at hnext
        · cases hnext
        · rename_i c left₄ heq'
          obtain ⟨space'', blank'', rfl⟩ := exists_spaces_of_eq heq'
          split at hnext
          · rename_i hclose
            have hc : c = Char.ofNat 125 := by rw [← hclose, Char.ofNat_toNat]
            subst hc
            obtain ⟨rfl, rfl⟩ := Prod.mk.inj (Except.ok.inj hnext)
            exact ⟨_, .lastMember quoted blank blank' first blank'', by simp⟩
          · split at hnext
            · rename_i hcomma
              subst hcomma
              obtain ⟨⟨ms', left₅⟩, hmore, hlast⟩ := Except.bind_eq_ok hnext
              obtain ⟨rfl, rfl⟩ := Prod.mk.inj (Except.ok.inj hlast)
              obtain ⟨ts, more, hts⟩ := writes_of_readMembers fuel hmore
              obtain ⟨next, blankNext, rfl⟩ := exists_spaces_of_eq hts
              exact ⟨_, .member quoted blank blank' first blank'' blankNext more, by simp⟩
            · cases hnext
      · cases hcolon
    · cases h

end

/-! ## Documents -/

theorem parseChars_eq_ok_iff : parseChars [] cs = .ok v ↔
    ∃ space t space', IsSpaces space ∧ Writes (.value v) t ∧ IsSpaces space' ∧
      cs = space ++ (t ++ space') := by
  constructor
  · intro h
    rw [parseChars] at h
    split at h
    · cases h
    · rename_i v' left hread
      split at h
      · rename_i hend
        obtain rfl := Except.ok.inj h
        obtain ⟨t, hwrites, ht⟩ := writes_of_readValue _ hread
        obtain ⟨space, blank, rfl⟩ := exists_spaces_of_eq ht
        obtain ⟨space', blank', hleft⟩ := exists_spaces_of_eq hend
        rw [List.append_nil] at hleft
        exact ⟨space, t, space', blank, hwrites, hleft ▸ blank', by rw [hleft]⟩
      · cases h
  · rintro ⟨space, t, space', blank, hwrites, blank', rfl⟩
    have hends : EndsValue space' := fun c hc => .inl (blank' c (List.mem_of_mem_head? hc))
    have hread := hwrites.isReadFrom (2 * (space ++ (t ++ space')).length + 2) space'
      (by simp only [List.length_append]; omega) hends
    have hend : skipSpace space' = [] := by
      have hskip := skipSpace_append blank' []
      rwa [List.append_nil] at hskip
    obtain ⟨c, cs, rfl, hspace, -⟩ := hwrites.head
    have hskip : skipSpace (space ++ (c :: cs ++ space')) = c :: cs ++ space' :=
      skipSpace_spaces blank hspace
    rw [parseChars, hskip, hread]
    simp only [hend]

/-- **What a document is.**  A text is read as a value exactly if it writes that value, between
blanks. -/
theorem parse_eq_ok_iff {s : String} : parse s = .ok v ↔
    ∃ space t space', IsSpaces space ∧ Writes (.value v) t ∧ IsSpaces space' ∧
      s.toList = space ++ (t ++ space') := by
  rw [parse]
  split
  · rename_i hmark
    refine iff_of_false (by simp) ?_
    rintro ⟨space, t, space', blank, hwrites, -, heq⟩
    obtain ⟨c, cs, rfl, -, -, hc⟩ := hwrites.head
    rw [heq] at hmark
    cases space with
    | nil => exact hc (Option.some.inj hmark)
    | cons b space =>
      obtain rfl := Option.some.inj hmark
      exact absurd (blank _ List.mem_cons_self) (by decide)
  · exact parseChars_eq_ok_iff

/-! ## Objects -/

/-- The text of an object with these members, as they stand there. -/
def WritesObject (ms : List (CodeText × Json)) (t : List Char) : Prop :=
  ∃ space inside, IsSpaces space ∧ Writes (.members ms) inside ∧
    t = Char.ofNat 123 :: (space ++ (inside ++ [Char.ofNat 125]))

/-- One of the members has that name, and it has that value. -/
def CarriesOnce (key : String) (v : Json) (ms : List (CodeText × Json)) : Prop :=
  ∃ front back, ms = front ++ (.whole key, v) :: back ∧ ∀ m ∈ front ++ back, m.1 ≠ .whole key

theorem WritesObject.writes {ms : List (CodeText × Json)} (h : WritesObject ms t) :
    Writes (.value (ofMembers ms)) t := by
  obtain ⟨space, inside, blank, hinside, rfl⟩ := h
  exact .object blank hinside

/-- An object stands between braces. -/
theorem WritesObject.ends {ms : List (CodeText × Json)} (h : WritesObject ms t) :
    t.head? = some (Char.ofNat 123) ∧ t.getLast? = some (Char.ofNat 125) := by
  obtain ⟨space, inside, -, -, rfl⟩ := h
  refine ⟨rfl, ?_⟩
  rw [← List.append_assoc, ← List.cons_append, List.getLast?_append]
  rfl

/-- The text of an object that has a member lists its members. -/
theorem Writes.exists_members {members : List (CodeText × Json)}
    (h : Writes (.value (.obj members)) t) (hne : members ≠ []) :
    ∃ ms, WritesObject ms t ∧ ofMembers ms = .obj members := by
  generalize hv : Json.obj members = v at h
  cases h with
  | scalar h =>
    cases h with
    | number h | minus h => subst hv; cases h
    | _ => cases hv
  | emptyList | list => cases hv
  | emptyObject => exact absurd (Json.obj.inj hv) hne
  | object blank inside => exact ⟨_, ⟨_, _, blank, inside, rfl⟩, rfl⟩

/-- Of members with the same name the last one counts. -/
theorem get?_ofMembers (key : String) (ms : List (CodeText × Json)) :
    (ofMembers ms).get? key = ms.reverse.lookup (.whole key) := by
  change (ms.foldl (fun acc kv => insert kv.1 kv.2 acc) []).lookup _ = _
  induction ms using List.reverseRecOn with
  | nil => rfl
  | append_singleton ms kv ih =>
    rw [List.foldl_append, List.reverse_append, List.reverse_singleton, List.singleton_append,
      List.lookup_cons, ← ih]
    by_cases hkey : .whole key = kv.1
    · rw [hkey, beq_self_eq_true]
      exact lookup_insert_self _ _ _
    · rw [beq_eq_false_iff_ne.mpr hkey]
      exact lookup_insert_of_ne hkey _ _

theorem CarriesOnce.get?_ofMembers {key : String} {ms : List (CodeText × Json)}
    (h : CarriesOnce key v ms) : (ofMembers ms).get? key = some v := by
  obtain ⟨front, back, rfl, hother⟩ := h
  have hback : back.reverse.lookup (.whole key) = none := by
    refine List.lookup_eq_none_iff.mpr fun m hm => ?_
    have hne := hother m (List.mem_append_right _ (List.mem_reverse.mp hm))
    simpa using Ne.symm hne
  rw [Json.get?_ofMembers, List.reverse_append, List.reverse_cons, List.lookup_append,
    List.lookup_append, hback, Option.none_or]
  simp

end Json
end RegistryAuth
