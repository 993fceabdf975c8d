import Mathlib
import RegistryAuth.Proofs.Text.Cut
import RegistryAuth.Url.Punycode

/-!
# Names in ASCII are read back

From its ASCII form a name is read back as it was written (`Punycode.decode?_encode`), so that a
form stands for one name only.

The writer takes the code points beyond ASCII in increasing order, and for each of them goes through
the whole name; the reader puts one character after the other into the name that it has so far.
What they share is a count: while `size` places are open, the place `i` for the code point `n` has
the number `n * size + i`, and a distance leads from one such number to another.  So the writer may
count on while it passes characters that are in place, and the reader finds code point and place by
a division.

* `place_digits`: what the reader does with one distance.
* `Writer.Reads`: what is written so far is read up to a name without the characters to come, and
  the count has come to the place where the writer is.
* `Writer.Reads.visit`, `Writer.Reads.foldl_visit`, `Writer.Reads.run`: the writer keeps to that at
  one character, through a name, and through all code points.
-/

namespace RegistryAuth
namespace Punycode

/-! ## Digits -/

theorem digit?_digitChar {d : Nat} (hd : d < 36) : digit? (digitChar d) = some d := by
  have hall : ∀ d < 36, digit? (digitChar d) = some d := by decide
  exact hall d hd

/-- `c` is written for a digit. -/
def IsDigit (c : Char) : Prop := ∃ d < 36, c = digitChar d

/-- Digits are written in ASCII and in lower case, and none is a hyphen or a dot. -/
theorem IsDigit.plain {c : Char} (hc : IsDigit c) :
    c.toNat < 128 ∧ c.toLower = c ∧ c ∉ "-.".toList := by
  obtain ⟨d, hd, rfl⟩ := hc
  have hall : ∀ d < 36, (digitChar d).toNat < 128 ∧ (digitChar d).toLower = digitChar d ∧
      digitChar d ∉ "-.".toList := by decide
  exact hall d hd

theorem digits_of_lt {bias position n : Nat} (h : n < threshold position bias) :
    digits bias position n = [digitChar n] := by
  rw [digits]
  exact if_pos h

theorem digits_of_le {bias position n : Nat} (h : threshold position bias ≤ n) :
    digits bias position n =
      digitChar (threshold position bias +
        (n - threshold position bias) % (36 - threshold position bias)) ::
      digits bias (position + 1)
        ((n - threshold position bias) / (36 - threshold position bias)) := by
  rw [digits]
  exact if_neg (Nat.not_lt.mpr h)

/-- The first digit of what is left is a digit, and the quotient has become smaller. -/
theorem digit_bounds {position bias n : Nat} (h : threshold position bias ≤ n) :
    threshold position bias + (n - threshold position bias) % (36 - threshold position bias) < 36 ∧
      (n - threshold position bias) / (36 - threshold position bias) < n := by
  have hpos := threshold_pos position bias
  have hle := threshold_le position bias
  have hmod : (n - threshold position bias) % (36 - threshold position bias) <
      36 - threshold position bias := Nat.mod_lt _ (by omega)
  have hdiv : (n - threshold position bias) / (36 - threshold position bias) ≤
      n - threshold position bias := Nat.div_le_self _ _
  omega

theorem isDigit_of_mem_digits {bias position n : Nat} {c : Char}
    (hc : c ∈ digits bias position n) : IsDigit c := by
  induction n using Nat.strongRecOn generalizing position with
  | ind n ih =>
    by_cases hn : n < threshold position bias
    · rw [digits_of_lt hn, List.mem_singleton] at hc
      exact ⟨n, by have := threshold_le position bias; omega, hc⟩
    · rw [digits_of_le (Nat.not_lt.mp hn), List.mem_cons] at hc
      obtain ⟨hdigit, hquotient⟩ := digit_bounds (Nat.not_lt.mp hn)
      rcases hc with rfl | hc
      · exact ⟨_, hdigit, rfl⟩
      · exact ih _ hquotient hc

/-- A number is read from its digits, and what follows is left. -/
theorem readNumber_digits (bias position weight sum n : Nat) (rest : List Char) :
    readNumber bias position weight sum (digits bias position n ++ rest) =
      some (sum + n * weight, rest) := by
  induction n using Nat.strongRecOn generalizing position weight sum with
  | ind n ih =>
    have hle := threshold_le position bias
    by_cases hn : n < threshold position bias
    · rw [digits_of_lt hn, List.singleton_append, readNumber, digit?_digitChar (by omega)]
      exact if_pos hn
    · rw [Nat.not_lt] at hn
      obtain ⟨hdigit, hquotient⟩ := digit_bounds hn
      rw [digits_of_le hn, List.cons_append, readNumber, digit?_digitChar hdigit]
      refine (if_neg (by omega)).trans ?_
      rw [ih _ hquotient]
      congr 2
      generalize threshold position bias = t at *
      have hmod := Nat.mod_add_div (n - t) (36 - t)
      calc sum + (t + (n - t) % (36 - t)) * weight + (n - t) / (36 - t) * (weight * (36 - t))
          = sum + (t + ((n - t) % (36 - t) + (36 - t) * ((n - t) / (36 - t)))) * weight := by ring
        _ = sum + n * weight := by rw [hmod, Nat.add_sub_cancel' hn]

/-! ## One character -/

/-- The reader puts a character where the writer has counted to. -/
theorem place_digits {base : List Nat} {last position bias delta next index : Nat} {isFirst : Bool}
    (hindex : index ≤ base.length) (hnext : next ≤ 0x10FFFF)
    (hcount : last * (base.length + 1) + (position + delta) = next * (base.length + 1) + index)
    (rest : List Char) :
    place base last position bias isFirst (digits bias 0 delta ++ rest) =
      place (base.take index ++ next :: base.drop index) next (index + 1)
        (adapt delta (base.length + 1) isFirst) false rest := by
  have hread := readNumber_digits bias 0 1 0 delta rest
  rw [Nat.zero_add, Nat.mul_one] at hread
  have hle : last ≤ next := by
    by_contra hlt
    have hmul := Nat.mul_le_mul_right (base.length + 1) (Nat.succ_le_of_lt (Nat.not_le.mp hlt))
    rw [Nat.succ_mul] at hmul
    omega
  -- the sum of place and distance is divided by the number of open places
  have hsum : index + (base.length + 1) * (next - last) = position + delta := by
    have hmul : next * (base.length + 1) =
        last * (base.length + 1) + (base.length + 1) * (next - last) := by
      rw [Nat.mul_comm (base.length + 1), ← Nat.add_mul, Nat.add_sub_cancel' hle]
    omega
  obtain ⟨hdiv, hmod⟩ := (Nat.div_mod_unique (Nat.succ_pos base.length)).mpr
    ⟨hsum, Nat.lt_succ_of_le hindex⟩
  cases hcs : digits bias 0 delta ++ rest with
  | nil =>
    rw [hcs] at hread
    cases hread
  | cons c cs =>
    rw [hcs] at hread
    rw [place]
    split
    · next hnone => cases hread.symm.trans hnone
    · next n left hsome =>
      obtain ⟨rfl, rfl⟩ := Prod.mk.inj (Option.some.inj (hread.symm.trans hsome))
      dsimp only
      rw [hdiv, hmod, Nat.add_sub_cancel' hle, if_neg (Nat.not_lt.mpr hnext)]

/-! ## All characters -/

/-- What the writer has written is read up to the name `base`, and then the count has come to the
code point `next` at the place `index`.  Here `start` reads a form from its beginning on, and
`basic` characters were in place then. -/
structure Writer.Reads (start : List Char → Option (List Nat)) (basic : Nat) (w : Writer)
    (base : List Nat) (next index : Nat) : Prop where
  length_eq : base.length = w.placed
  basic_le : basic ≤ w.placed
  digits : ∀ c ∈ w.out, IsDigit c
  reads : ∃ last position,
    last * (w.placed + 1) + (position + w.delta) = next * (w.placed + 1) + index ∧
      ∀ rest, start (w.out ++ rest) = place base last position w.bias (w.placed = basic) rest

/-- The name without the characters to come, while the writer of `m` stands behind `front` and in
front of `back`. -/
def merge (m : Nat) (front back : List Nat) : List Nat :=
  front.filter (· ≤ m) ++ back.filter (· < m)

namespace Writer.Reads

variable {start : List Char → Option (List Nat)} {basic m index : Nat} {w : Writer}
  {base name : List Nat}

/-- Where a character is in place, the writer counts on. -/
theorem pass (h : w.Reads start basic base m index) :
    { w with delta := w.delta + 1 }.Reads start basic base m (index + 1) := by
  obtain ⟨last, position, hcount, hread⟩ := h.reads
  exact ⟨h.length_eq, h.basic_le, h.digits, last, position, by dsimp only; omega, hread⟩

/-- The writer may go on to another code point, if it counts the places between. -/
theorem skip (h : w.Reads start basic base m 0) {next : Nat} (hle : m ≤ next) :
    { w with delta := w.delta + (next - m) * (w.placed + 1) }.Reads start basic base next 0 := by
  obtain ⟨last, position, hcount, hread⟩ := h.reads
  refine ⟨h.length_eq, h.basic_le, h.digits, last, position, ?_, hread⟩
  have hmul : next * (w.placed + 1) = m * (w.placed + 1) + (next - m) * (w.placed + 1) := by
    rw [← Nat.add_mul, Nat.add_sub_cancel' hle]
  dsimp only
  omega

/-- Behind the last place of a code point comes the first one of the next. -/
theorem wrap (h : w.Reads start basic base m base.length) :
    { w with delta := w.delta + 1 }.Reads start basic base (m + 1) 0 := by
  obtain ⟨last, position, hcount, hread⟩ := h.reads
  refine ⟨h.length_eq, h.basic_le, h.digits, last, position, ?_, hread⟩
  rw [h.length_eq] at hcount
  dsimp only
  rw [Nat.succ_mul]
  omega

/-- Where a character is to come, the distance is written, and the reader puts it there. -/
theorem put {kept others : List Nat} (hm : m ≤ 0x10FFFF)
    (h : w.Reads start basic (kept ++ others) m kept.length) :
    Reads start basic ⟨0, adapt w.delta (w.placed + 1) (w.placed = basic), w.placed + 1,
      w.out ++ Punycode.digits w.bias 0 w.delta⟩ (kept ++ m :: others) m (kept.length + 1) := by
  obtain ⟨last, position, hcount, hread⟩ := h.reads
  have hlength := h.length_eq
  have hbasic := h.basic_le
  refine ⟨?_, Nat.le_succ_of_le hbasic, ?_, m, kept.length + 1, rfl, fun rest => ?_⟩
  · rw [List.length_append] at hlength
    rw [List.length_append, List.length_cons, ← Nat.add_assoc, hlength]
  · intro c hc
    rcases List.mem_append.mp hc with hc | hc
    · exact h.digits c hc
    · exact isDigit_of_mem_digits hc
  · have hindex : kept.length ≤ (kept ++ others).length := by simp
    have hfirst : decide (w.placed + 1 = basic) = false := decide_eq_false (by omega)
    rw [← hlength] at hcount
    dsimp only
    rw [List.append_assoc, hread, place_digits hindex hm hcount, hlength, hfirst,
      List.take_left, List.drop_left]

/-- The writer goes through one character. -/
theorem visit (hm : m ≤ 0x10FFFF) {front back : List Nat} {n : Nat}
    (h : w.Reads start basic (merge m front (n :: back)) m (front.filter (· ≤ m)).length) :
    (w.visit basic m n).Reads start basic (merge m (front ++ [n]) back) m
      ((front ++ [n]).filter (· ≤ m)).length := by
  unfold merge at h ⊢
  rw [List.filter_cons] at h
  rw [List.filter_append, List.filter_singleton]
  rcases Nat.lt_trichotomy n m with hlt | rfl | hgt
  · rw [Writer.visit, if_pos hlt]
    simpa [hlt, hlt.le] using h.pass
  · rw [Writer.visit, if_neg (lt_irrefl n), if_pos rfl]
    simpa using put hm (by simpa using h)
  · rw [Writer.visit, if_neg (by omega), if_neg (by omega)]
    simpa [hgt.not_ge, hgt.not_gt] using h

/-- The writer goes through what is left of the name. -/
theorem foldl_visit (hm : m ≤ 0x10FFFF) {front back : List Nat}
    (h : w.Reads start basic (merge m front back) m (front.filter (· ≤ m)).length) :
    (back.foldl (Writer.visit basic m) w).Reads start basic ((front ++ back).filter (· ≤ m)) m
      ((front ++ back).filter (· ≤ m)).length := by
  induction back generalizing w front with
  | nil => simpa [merge] using h
  | cons n back ih => simpa using ih (visit hm h)

/-- The writer goes through all code points `ms`, which hold those of the name from `next` on. -/
theorem run {ms : List Nat} {next : Nat} (hsorted : ms.Pairwise (· < ·))
    (hms : ∀ m ∈ ms, next ≤ m ∧ m ≤ 0x10FFFF) (hname : ∀ n ∈ name, next ≤ n → n ∈ ms)
    (h : w.Reads start basic (name.filter (· < next)) next 0) :
    (∀ c ∈ (Writer.run name basic ms next w).out, IsDigit c) ∧
      start (Writer.run name basic ms next w).out = some name := by
  induction ms generalizing w next with
  | nil =>
    have hall : name.filter (· < next) = name := by
      rw [List.filter_eq_self]
      intro n hn
      rw [decide_eq_true_iff, ← Nat.not_le]
      exact fun hle => List.not_mem_nil (hname n hn hle)
    rw [hall] at h
    obtain ⟨last, position, -, hread⟩ := h.reads
    have hend := hread []
    rw [List.append_nil, place] at hend
    exact ⟨h.digits, hend⟩
  | cons m ms ih =>
    obtain ⟨hfirst, hsorted⟩ := List.pairwise_cons.mp hsorted
    obtain ⟨⟨hle, hm⟩, hms⟩ := List.forall_mem_cons.mp hms
    -- no character of the name lies between the last code point and this one
    have hbetween : name.filter (· < next) = merge m [] name := by
      refine List.filter_congr fun n hn => decide_eq_decide.mpr ⟨fun hlt => by omega, fun hlt => ?_⟩
      by_contra hnext
      rcases List.mem_cons.mp (hname n hn (Nat.not_lt.mp hnext)) with rfl | hmem
      · exact lt_irrefl n hlt
      · exact absurd (hfirst n hmem) (by omega)
    have hfold := foldl_visit hm (hbetween ▸ h.skip hle)
    rw [List.nil_append] at hfold
    have hwrap := hfold.wrap
    have hnext : name.filter (· ≤ m) = name.filter (· < m + 1) :=
      List.filter_congr fun n _ => decide_eq_decide.mpr Nat.lt_succ_iff.symm
    rw [hnext] at hwrap
    refine ih hsorted (fun m' hm' => ⟨hfirst m' hm', (hms m' hm').2⟩) (fun n hn hlt => ?_) hwrap
    exact (List.mem_cons.mp (hname n hn (by omega))).resolve_left (by omega)

end Writer.Reads

/-! ## The code points to come -/

theorem mem_insertNew {n k : Nat} {ms : List Nat} : k ∈ insertNew n ms ↔ k = n ∨ k ∈ ms := by
  induction ms with
  | nil => simp [insertNew]
  | cons m ms ih =>
    rw [insertNew]
    split_ifs with hlt heq
    · rw [List.mem_cons]
    · subst heq
      simp
    · rw [List.mem_cons, List.mem_cons, ih, or_left_comm]

theorem pairwise_insertNew {n : Nat} {ms : List Nat} (h : ms.Pairwise (· < ·)) :
    (insertNew n ms).Pairwise (· < ·) := by
  induction ms with
  | nil => exact List.pairwise_singleton _ _
  | cons m ms ih =>
    obtain ⟨hfirst, hrest⟩ := List.pairwise_cons.mp h
    rw [insertNew]
    split_ifs with hlt heq
    · exact List.pairwise_cons.mpr ⟨List.forall_mem_cons.mpr
        ⟨hlt, fun k hk => hlt.trans (hfirst k hk)⟩, h⟩
    · exact h
    · refine List.pairwise_cons.mpr ⟨fun k hk => ?_, ih hrest⟩
      rcases mem_insertNew.mp hk with rfl | hk
      · omega
      · exact hfirst k hk

/-- What is gathered from a name are its code points beyond ASCII, in increasing order. -/
theorem foldl_insertNew (name : List Nat) {ms : List Nat} (hms : ms.Pairwise (· < ·)) :
    let all := name.foldl (fun ms n => if n < 128 then ms else insertNew n ms) ms
    all.Pairwise (· < ·) ∧ ∀ k, k ∈ all ↔ k ∈ ms ∨ k ∈ name ∧ 128 ≤ k := by
  induction name generalizing ms with
  | nil => exact ⟨hms, by simp⟩
  | cons n name ih =>
    rw [List.foldl_cons]
    split_ifs with hn
    · obtain ⟨hsorted, hmem⟩ := ih hms
      have hk : ∀ k, ¬(k = n ∧ 128 ≤ k) := by omega
      exact ⟨hsorted, fun k => by simp [hmem, or_and_right, hk]⟩
    · obtain ⟨hsorted, hmem⟩ := ih (pairwise_insertNew hms)
      have hk : ∀ k, k = n ∧ 128 ≤ k ↔ k = n := by omega
      refine ⟨hsorted, fun k => ?_⟩
      rw [hmem, mem_insertNew, List.mem_cons, or_and_right, hk, or_assoc, or_left_comm]

/-! ## Forms -/

/-- A form is divided at its last hyphen. -/
theorem decode?_of_parts {basic out : List Char} (hout : '-' ∉ out) :
    decode? ((if basic.isEmpty then [] else basic ++ ['-']) ++ out) =
      place (basic.map Char.toNat) 128 0 72 true out := by
  have hplain : ∀ c ∈ out.reverse, decide (c ≠ '-') = true := by
    intro c hc
    rw [decide_eq_true_iff]
    rintro rfl
    exact hout (List.mem_reverse.mp hc)
  unfold decode?
  dsimp only
  by_cases hbasic : basic = []
  · subst hbasic
    simp only [List.isEmpty_nil, if_true, List.nil_append, List.takeWhile_eq_self_iff.mpr hplain,
      List.dropWhile_eq_nil_iff.mpr hplain, List.reverse_reverse]
    rfl
  · have hback : (basic ++ ['-'] ++ out).reverse = out.reverse ++ '-' :: basic.reverse := by simp
    have hend : ∀ c, ('-' :: basic.reverse).head? = some c → decide (c ≠ '-') = false := by simp
    rw [if_neg (by simpa using hbasic), hback, Text.takeWhile_append_of_head hplain hend,
      Text.dropWhile_append_of_head hplain hend, List.drop_succ_cons, List.drop_zero,
      List.reverse_reverse, List.reverse_reverse]

/-- The characters beyond ASCII of a name, as they are written behind the others. -/
def distances (cs : List Char) : List Char :=
  let basic := cs.filter fun c => c.toNat < 128
  let others := (cs.map Char.toNat).foldl (fun ms n => if n < 128 then ms else insertNew n ms) []
  (Writer.run (cs.map Char.toNat) basic.length others 128 ⟨0, 72, basic.length, []⟩).out

theorem encode_eq (cs : List Char) :
    let basic := cs.filter fun c => c.toNat < 128
    encode cs = (if basic.isEmpty then [] else basic ++ ['-']) ++ distances cs :=
  rfl

theorem distances_spec (cs : List Char) :
    (∀ c ∈ distances cs, IsDigit c) ∧
      place ((cs.filter fun c => c.toNat < 128).map Char.toNat) 128 0 72 true (distances cs) =
        some (cs.map Char.toNat) := by
  obtain ⟨hsorted, hmem⟩ := foldl_insertNew (cs.map Char.toNat) List.Pairwise.nil
  have hbasic : (cs.filter fun c => c.toNat < 128).map Char.toNat =
      (cs.map Char.toNat).filter (· < 128) := by
    rw [List.filter_map]
    rfl
  have hstart : Writer.Reads
      (place ((cs.filter fun c => c.toNat < 128).map Char.toNat) 128 0 72 true)
      (cs.filter fun c => c.toNat < 128).length
      ⟨0, 72, (cs.filter fun c => c.toNat < 128).length, []⟩
      ((cs.map Char.toNat).filter (· < 128)) 128 0 := by
    refine ⟨by rw [← hbasic, List.length_map], le_rfl, fun _ hc => absurd hc List.not_mem_nil,
      128, 0, rfl, fun rest => ?_⟩
    rw [hbasic, List.nil_append, decide_eq_true rfl]
  refine hstart.run hsorted (fun m hm => ?_) fun n hn hle => (hmem n).mpr (.inr ⟨hn, hle⟩)
  obtain ⟨hm, hle⟩ := ((hmem m).mp hm).resolve_left List.not_mem_nil
  obtain ⟨c, -, rfl⟩ := List.mem_map.mp hm
  exact ⟨hle, c.toNat_le_max⟩

/-- **A name is read back from its form.** -/
theorem decode?_encode (cs : List Char) : decode? (encode cs) = some (cs.map Char.toNat) := by
  obtain ⟨hdigits, hplace⟩ := distances_spec cs
  have hhyphen : '-' ∉ distances cs := fun hmem => (hdigits '-' hmem).plain.2.2 (by decide)
  rw [encode_eq, decode?_of_parts hhyphen, hplace]

/-- A form holds nothing but what is in the name, a hyphen, and digits. -/
theorem of_mem_encode {cs : List Char} {c : Char} (hc : c ∈ encode cs) :
    (c ∈ cs ∧ c.toNat < 128) ∨ c = '-' ∨ IsDigit c := by
  rw [encode_eq, List.mem_append] at hc
  rcases hc with hc | hc
  · split at hc
    · cases hc
    · rw [List.mem_append, List.mem_filter, decide_eq_true_iff, List.mem_singleton] at hc
      exact hc.imp_right .inl
  · exact .inr (.inr ((distances_spec cs).1 c hc))

/-- What is beyond ASCII is written by one digit at least. -/
theorem distances_ne_nil {cs : List Char} {c : Char} (hc : c ∈ cs) (hforeign : 128 ≤ c.toNat) :
    distances cs ≠ [] := by
  intro hnil
  have hplace := (distances_spec cs).2
  rw [hnil, place, Option.some_inj] at hplace
  have hmem : c.toNat ∈ (cs.filter fun c => c.toNat < 128).map Char.toNat :=
    hplace ▸ List.mem_map_of_mem hc
  obtain ⟨d, hd, hcode⟩ := List.mem_map.mp hmem
  have hascii := (List.mem_filter.mp hd).2
  rw [decide_eq_true_iff] at hascii
  omega

/-- The form of a name that is not all ASCII does not end in a hyphen. -/
theorem getLast?_encode {cs : List Char} {c : Char} (hc : c ∈ cs) (hforeign : 128 ≤ c.toNat) :
    ∃ d, (encode cs).getLast? = some d ∧ IsDigit d := by
  have hne := distances_ne_nil hc hforeign
  refine ⟨(distances cs).getLast hne, ?_, (distances_spec cs).1 _ (List.getLast_mem hne)⟩
  rw [encode_eq, List.getLast?_append_of_ne_nil _ hne, List.getLast?_eq_some_getLast hne]

/-- The form of a name in ASCII is the name and a hyphen. -/
theorem encode_of_ascii {cs : List Char} (hne : cs ≠ []) (h : ∀ c ∈ cs, c.toNat < 128) :
    encode cs = cs ++ ['-'] := by
  have hbasic : cs.filter (fun c => c.toNat < 128) = cs :=
    List.filter_eq_self.mpr fun c hc => decide_eq_true (h c hc)
  have hothers : (cs.map Char.toNat).foldl
      (fun ms n => if n < 128 then ms else insertNew n ms) [] = [] := by
    obtain ⟨-, hmem⟩ := foldl_insertNew (cs.map Char.toNat) List.Pairwise.nil
    refine List.eq_nil_iff_forall_not_mem.mpr fun k hk => ?_
    obtain ⟨hk, hforeign⟩ := ((hmem k).mp hk).resolve_left List.not_mem_nil
    obtain ⟨c, hc, rfl⟩ := List.mem_map.mp hk
    exact absurd (h c hc) (Nat.not_lt.mpr hforeign)
  rw [encode, hbasic, hothers, if_neg (by simpa using hne), Writer.run, List.append_nil]

end Punycode
end RegistryAuth
