import Mathlib
import RegistryAuth.Json.Parser
import RegistryAuth.Proofs.Except
import RegistryAuth.Proofs.Unicode.Ascii

/-!
# Texts in quotes

A text in a document is written in pieces: characters that stand for themselves, escapes of one
character, and escapes of a code unit (`Json.Piece.Written`).  Two code units that are the halves of
a pair stand for one character, and a half alone stands for itself (`Json.codes`).

What is read between quotes is what the pieces stand for, and whatever is read was written in
pieces (`Json.readString_eq_ok_iff`).

## Why pieces are not translated one by one

A high half has to be kept until it is known whether the low half follows.  So `Json.codes` looks
at two pieces, and the reader at two escapes.  They agree since a piece that begins with the
escape of a code unit is the piece of that unit (`Json.Quoted.exists_unit`).
-/

namespace RegistryAuth
namespace Json

/-! ## Pieces -/

/-- A piece of a text: a character, or a code unit. -/
inductive Piece where
  | char (c : Char)
  | unit (n : Nat)

/-- What stands behind a backslash, and the character it stands for. -/
def escapes : List (Char × Char) :=
  [('"', '"'), ('\\', '\\'), ('/', '/'), ('b', Char.ofNat 8), ('f', Char.ofNat 12), ('n', '\n'),
    ('r', '\r'), ('t', '\t')]

/-- The text writes the piece. -/
inductive Piece.Written : Piece → List Char → Prop
  | plain {c : Char} (quote : c ≠ '"') (backslash : c ≠ '\\') (shown : 32 ≤ c.toNat) :
      Written (.char c) [c]
  | escape {e c : Char} (h : (e, c) ∈ escapes) : Written (.char c) ['\\', e]
  | unit {a b c d : Char} {n : Nat} (h : hex4? a b c d = some n) :
      Written (.unit n) ['\\', 'u', a, b, c, d]

/-- The text writes the pieces one after the other. -/
inductive Quoted : List Piece → List Char → Prop
  | nil : Quoted [] []
  | cons {p : Piece} {ps : List Piece} {t ts : List Char} (first : p.Written t)
      (rest : Quoted ps ts) : Quoted (p :: ps) (t ++ ts)

/-- The first half of a pair. -/
abbrev IsHigh (n : Nat) : Prop := 0xD800 ≤ n ∧ n < 0xDC00

/-- The second half of a pair. -/
abbrev IsLow (n : Nat) : Prop := 0xDC00 ≤ n ∧ n < 0xE000

/-- The code points that the pieces stand for. -/
def codes : List Piece → List Code
  | [] => []
  | .char c :: ps => .char c :: codes ps
  | .unit n :: .unit m :: ps =>
    if IsHigh n ∧ IsLow m then .char (pairChar n m) :: codes ps
    else .ofNat n :: codes (.unit m :: ps)
  | .unit n :: ps => .ofNat n :: codes ps
termination_by ps => ps.length

theorem codes_pair {n m : Nat} (hn : IsHigh n) (hm : IsLow m) (ps : List Piece) :
    codes (.unit n :: .unit m :: ps) = .char (pairChar n m) :: codes ps := by
  rw [codes, if_pos ⟨hn, hm⟩]

/-- A code unit stands alone unless it is a first half and the second follows. -/
theorem codes_unit {n : Nat} {ps : List Piece}
    (h : IsHigh n → ∀ m qs, ps = .unit m :: qs → ¬IsLow m) :
    codes (.unit n :: ps) = .ofNat n :: codes ps := by
  by_cases hps : ∃ m qs, ps = .unit m :: qs
  · obtain ⟨m, qs, rfl⟩ := hps
    rw [codes, if_neg fun ⟨hn, hm⟩ => h hn m qs rfl hm]
  · rw [codes]
    exact fun m qs heq => hps ⟨m, qs, heq⟩

/-! ## Reading -/

variable {whole cs left rest body : List Char} {ps : List Piece}

theorem simpleEscape?_eq_some_iff {e c : Char} : simpleEscape? e = some c ↔ (e, c) ∈ escapes := by
  refine ⟨fun h => ?_, fun h => ?_⟩
  · simp only [simpleEscape?] at h
    split_ifs at h with hself hback hfeed hline hreturn htab
    · obtain rfl := Option.some.inj h
      rcases hself with rfl | rfl | rfl <;> simp [escapes]
    all_goals
      obtain rfl := Option.some.inj h
      simp [escapes, *]
  · simp only [escapes, List.mem_cons, Prod.mk.injEq, List.not_mem_nil, or_false] at h
    rcases h with ⟨rfl, rfl⟩ | ⟨rfl, rfl⟩ | ⟨rfl, rfl⟩ | ⟨rfl, rfl⟩ | ⟨rfl, rfl⟩ | ⟨rfl, rfl⟩ |
      ⟨rfl, rfl⟩ | ⟨rfl, rfl⟩
    all_goals rfl

theorem readString_unit {a b c d x : Char} {n : Nat} (hhex : hex4? a b c d = some n)
    (hhigh : ¬(0xD800 ≤ n ∧ n < 0xDC00)) :
    readString [] whole ('\\' :: 'u' :: a :: b :: c :: d :: x :: cs) =
      prepend (.ofNat n) (readString [] whole (x :: cs)) := by
  -- the reader looks first whether another escape follows, which is to be the lower half of a pair
  by_cases hnext : ∃ a' b' c' d' x' cs', x :: cs = '\\' :: 'u' :: a' :: b' :: c' :: d' :: x' :: cs'
  · obtain ⟨a', b', c', d', x', cs', hnext⟩ := hnext
    rw [hnext, readString]
    simp only [hhex, hhigh, if_false]
  · rw [readString, hhex]
    intro a' b' c' d' x' cs' hx hcs
    exact hnext ⟨a', b', c', d', x', cs', by rw [hx, hcs]⟩

theorem readString_pair {a b c d a' b' c' d' x : Char} {n m : Nat} (hhex : hex4? a b c d = some n)
    (hhex' : hex4? a' b' c' d' = some m) (hhigh : 0xD800 ≤ n ∧ n < 0xDC00)
    (hlow : 0xDC00 ≤ m ∧ m < 0xE000) :
    readString [] whole ('\\' :: 'u' :: a :: b :: c :: d :: '\\' :: 'u' :: a' :: b' :: c' :: d' ::
      x :: cs) = prepend (.char (pairChar n m)) (readString [] whole (x :: cs)) := by
  rw [readString]
  simp only [hhex, hhex', hhigh, hlow, and_self, if_true]

theorem readString_simple {e c : Char} (hu : e ≠ 'u') (h : simpleEscape? e = some c) :
    readString [] whole ('\\' :: e :: cs) = prepend (.char c) (readString [] whole cs) := by
  rw [readString, h]
  all_goals simp [hu]

theorem readString_plain {c : Char} (hquote : c ≠ '"') (hescape : c ≠ '\\') (h : 32 ≤ c.toNat) :
    readString [] whole (c :: cs) = prepend (.char c) (readString [] whole cs) := by
  rw [readString, if_neg (by omega), codeAt_nil]
  all_goals simp [hquote, hescape]

/-- A code unit is read alone if it is a first half and no escape of the second follows. -/
theorem readString_alone {a b c d x : Char} {n : Nat} (hhex : hex4? a b c d = some n)
    (hhigh : IsHigh n) (hnext : ∀ a' b' c' d' more,
      x :: cs = '\\' :: 'u' :: a' :: b' :: c' :: d' :: more →
        ∃ m, hex4? a' b' c' d' = some m ∧ ¬IsLow m) :
    readString [] whole ('\\' :: 'u' :: a :: b :: c :: d :: x :: cs) =
      prepend (.ofNat n) (readString [] whole (x :: cs)) := by
  by_cases hescape : ∃ a' b' c' d' x' cs',
      x :: cs = '\\' :: 'u' :: a' :: b' :: c' :: d' :: x' :: cs'
  · obtain ⟨a', b', c', d', x', cs', hescape⟩ := hescape
    obtain ⟨m, hhex', hlow⟩ := hnext a' b' c' d' (x' :: cs') hescape
    rw [hescape, readString, hhex, hhex']
    simp only [if_pos hhigh, if_neg hlow]
  · rw [readString, hhex]
    intro a' b' c' d' x' cs' hx hcs
    exact hescape ⟨a', b', c', d', x', cs', by rw [hx, hcs]⟩

/-- What begins with the escape of a code unit is written in pieces that begin with that unit. -/
theorem Quoted.exists_unit (h : Quoted ps body) {a b c d : Char} {more : List Char}
    (heq : body ++ '"' :: left = '\\' :: 'u' :: a :: b :: c :: d :: more) :
    ∃ m qs, ps = .unit m :: qs ∧ hex4? a b c d = some m := by
  cases h with
  | nil => cases heq
  | @cons p qs t ts first =>
    cases first with
    | plain quote backslash => exact absurd (List.cons.inj heq).1 backslash
    | escape h =>
      obtain ⟨rfl, -⟩ := List.cons.inj (List.cons.inj heq).2
      simp [escapes] at h
    | @unit a' b' c' d' m hhex =>
      simp only [List.cons_append, List.nil_append, List.cons.injEq, true_and] at heq
      obtain ⟨rfl, rfl, rfl, rfl, -⟩ := heq
      exact ⟨m, qs, rfl, hhex⟩

/-- A code unit is read as what it stands for in front of these pieces. -/
theorem readString_unit_of_quoted {a b c d : Char} {n : Nat} (hhex : hex4? a b c d = some n)
    (h : Quoted ps body) (halone : IsHigh n → ∀ m qs, ps = .unit m :: qs → ¬IsLow m) :
    readString [] whole ('\\' :: 'u' :: a :: b :: c :: d :: (body ++ '"' :: rest)) =
      prepend (.ofNat n) (readString [] whole (body ++ '"' :: rest)) := by
  -- more follows, since the closing quote is there
  obtain ⟨x, cs, hbody⟩ : ∃ x cs, body ++ '"' :: rest = x :: cs :=
    List.exists_cons_of_ne_nil (by simp)
  rw [hbody]
  by_cases hhigh : IsHigh n
  · refine readString_alone hhex hhigh fun a' b' c' d' more hmore => ?_
    obtain ⟨m, qs, hps, hhex'⟩ := h.exists_unit (hbody.trans hmore)
    exact ⟨m, hhex', halone hhigh m qs hps⟩
  · exact readString_unit hhex hhigh

/-- What is written in pieces is read. -/
theorem readString_of_quoted (h : Quoted ps body) :
    readString [] whole (body ++ '"' :: rest) = .ok (codes ps, rest) := by
  fun_induction codes ps generalizing body with
  | case1 =>
    cases h
    rw [List.nil_append, readString]
  | case2 c ps ih =>
    cases h with
    | @cons _ _ t ts first tail =>
      rw [List.append_assoc]
      cases first with
      | plain quote backslash shown =>
        rw [List.singleton_append, readString_plain quote backslash shown, ih tail]
        rfl
      | @escape e _ he =>
        have hu : e ≠ 'u' := by
          rintro rfl
          simp [escapes] at he
        rw [List.cons_append, List.singleton_append,
          readString_simple hu (simpleEscape?_eq_some_iff.mpr he), ih tail]
        rfl
  | case3 n m ps hpair ih =>
    cases h with
    | cons first tail =>
      cases first with
      | unit hhex =>
        cases tail with
        | @cons _ _ _ ts second tail =>
          cases second with
          | unit hhex' =>
            obtain ⟨x, cs, hts⟩ : ∃ x cs, ts ++ '"' :: rest = x :: cs :=
              List.exists_cons_of_ne_nil (by simp)
            have hread := ih tail
            simp only [List.cons_append, List.nil_append]
            rw [hts] at hread ⊢
            rw [readString_pair hhex hhex' hpair.1 hpair.2, hread]
            rfl
  | case4 n m ps hpair ih =>
    cases h with
    | cons first tail =>
      cases first with
      | unit hhex =>
        have halone : IsHigh n → ∀ m' qs, Piece.unit m :: ps = .unit m' :: qs → ¬IsLow m' := by
          rintro hhigh m' qs ⟨⟩ hlow
          exact hpair ⟨hhigh, hlow⟩
        simp only [List.cons_append, List.nil_append]
        rw [readString_unit_of_quoted hhex tail halone, ih tail]
        rfl
  | case5 n ps hps ih =>
    cases h with
    | cons first tail =>
      cases first with
      | unit hhex =>
        simp only [List.cons_append, List.nil_append]
        rw [readString_unit_of_quoted hhex tail fun _ m qs heq => absurd heq (hps m qs), ih tail]
        rfl

/-- A text for pieces that begin with a code unit goes on behind its escape. -/
theorem Quoted.begins_with_unit {m : Nat} (h : Quoted (.unit m :: ps) body) (left : List Char) :
    ∃ a b c d x more, body ++ '"' :: left = '\\' :: 'u' :: a :: b :: c :: d :: x :: more := by
  cases h with
  | @cons _ _ _ ts first =>
    cases first with
    | @unit a b c d =>
      obtain ⟨x, more, hts⟩ : ∃ x more, ts ++ '"' :: left = x :: more :=
        List.exists_cons_of_ne_nil (by simp)
      exact ⟨a, b, c, d, x, more, by simp [hts]⟩

theorem prepend_eq_ok {c : Code} {r : Read (List Code)} {s : List Code}
    (h : prepend c r = .ok (s, left)) : ∃ s', r = .ok (s', left) ∧ s = c :: s' := by
  obtain ⟨⟨s', left'⟩, hr, heq⟩ := Except.map_eq_ok h
  obtain ⟨rfl, rfl⟩ := Prod.mk.inj heq
  exact ⟨s', hr, rfl⟩

/-- What is read was written in pieces. -/
theorem quoted_of_readString {s : List Code} (h : readString [] whole cs = .ok (s, left)) :
    ∃ ps body, Quoted ps body ∧ cs = body ++ '"' :: left ∧ s = codes ps := by
  fun_induction readString [] whole cs generalizing s
  case case2 cs =>
    obtain ⟨rfl, rfl⟩ := Prod.mk.inj (Except.ok.inj h)
    exact ⟨[], [], .nil, rfl, by rw [codes]⟩
  case case6 n hhex hhigh m hhex' hlow ih =>
    obtain ⟨s', hread, rfl⟩ := prepend_eq_ok h
    obtain ⟨ps, body, hbody, heq, rfl⟩ := ih hread
    exact ⟨_, _, .cons (.unit hhex) (.cons (.unit hhex') hbody), by rw [heq]; rfl,
      (codes_pair hhigh hlow ps).symm⟩
  case case7 n hhex hhigh m hhex' hlow ih =>
    obtain ⟨s', hread, rfl⟩ := prepend_eq_ok h
    obtain ⟨ps, body, hbody, heq, rfl⟩ := ih hread
    obtain ⟨m', qs, rfl, hm'⟩ := hbody.exists_unit heq.symm
    obtain rfl := Option.some.inj (hhex'.symm.trans hm')
    refine ⟨_, _, .cons (.unit hhex) hbody, by rw [heq]; rfl,
      (codes_unit fun _ k qs' hk => ?_).symm⟩
    have hmk : m = k := Piece.unit.inj (List.cons.inj hk).1
    exact hmk ▸ hlow
  case case8 n hhex hhigh ih =>
    obtain ⟨s', hread, rfl⟩ := prepend_eq_ok h
    obtain ⟨ps, body, hbody, heq, rfl⟩ := ih hread
    exact ⟨_, _, .cons (.unit hhex) hbody, by rw [heq]; rfl,
      (codes_unit fun hn => absurd hn hhigh).symm⟩
  case case10 x cs hnext n hhex ih =>
    obtain ⟨s', hread, rfl⟩ := prepend_eq_ok h
    obtain ⟨ps, body, hbody, heq, rfl⟩ := ih hread
    refine ⟨_, _, .cons (.unit hhex) hbody, by rw [heq]; rfl,
      (codes_unit fun _ m qs hps => ?_).symm⟩
    -- another unit would have been seen by the reader
    subst hps
    obtain ⟨a, b, c, d, x', more, hmore⟩ := hbody.begins_with_unit left
    obtain ⟨hx, hcs⟩ := List.cons.inj (heq.trans hmore)
    exact absurd hcs (hnext a b c d x' more hx)
  case case12 e cs _ _ hu c hescape ih =>
    obtain ⟨s', hread, rfl⟩ := prepend_eq_ok h
    obtain ⟨ps, body, hbody, heq, rfl⟩ := ih hread
    exact ⟨_, _, .cons (.escape (simpleEscape?_eq_some_iff.mp hescape)) hbody, by rw [heq]; rfl,
      by rw [codes]⟩
  case case15 c cs hquote hend _ _ _ hescape hshown ih =>
    obtain ⟨s', hread, rfl⟩ := prepend_eq_ok h
    obtain ⟨ps, body, hbody, heq, rfl⟩ := ih hread
    have hbackslash : c ≠ '\\' := by
      rintro rfl
      cases cs with
      | nil => exact hend rfl rfl
      | cons e cs => exact hescape e cs rfl rfl
    exact ⟨_, _, .cons (.plain hquote hbackslash (by omega)) hbody, by rw [heq]; rfl,
      by rw [codes, codeAt_nil]⟩
  all_goals cases h

/-- **What is read between quotes** is what the pieces stand for in which it was written. -/
theorem readString_eq_ok_iff {s : List Code} :
    readString [] whole cs = .ok (s, left) ↔
      ∃ ps body, Quoted ps body ∧ cs = body ++ '"' :: left ∧ s = codes ps :=
  ⟨quoted_of_readString, fun ⟨_, _, h, hcs, hs⟩ => hcs ▸ hs ▸ readString_of_quoted h⟩

end Json
end RegistryAuth
