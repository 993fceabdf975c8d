import Mathlib
import RegistryAuth.Text.Base64

/-!
# Writing and reading base64

All that is written is ASCII (`toNat_lt_of_mem_encode`), and it can be read back.

Both readers take a digit for the number that it was written for (`readFrom_digitChar`), and so
bytes are read back group by group (`readFrom_encode`): three bytes leave nothing over, and the
bits that one or two bytes leave over are dropped with the filling.  What was written never opens
with filling, so that the strict reader takes it, too (`decodeStrict_encode`).

The strict reader takes more than what `encode` writes: the bits that are left over need not be
zero, and behind whole groups there may be filling.  `Writes` says what it takes, group by group
(`decodeStrict_eq_some_iff`).
-/

namespace RegistryAuth
namespace Text
namespace Base64

theorem toNat_digitChar_lt (n : Nat) : (digitChar n).toNat < 128 := by
  have small : ∀ k : Nat, k < 128 → (Char.ofNat k).toNat < 128 := by decide
  unfold digitChar
  split
  · exact small _ (by omega)
  · split
    · exact small _ (by omega)
    · split
      · exact small _ (by omega)
      · split <;> decide

/-- All that base64 writes is ASCII. -/
theorem toNat_lt_of_mem_encode {bytes : List UInt8} {c : Char} (hc : c ∈ encode bytes) :
    c.toNat < 128 := by
  fun_induction encode bytes with
  | case1 => cases hc
  | case2 a =>
    simp only [List.mem_cons, List.not_mem_nil, or_false] at hc
    rcases hc with rfl | rfl | rfl | rfl
    · exact toNat_digitChar_lt _
    · exact toNat_digitChar_lt _
    · decide
    · decide
  | case3 a b =>
    simp only [List.mem_cons, List.not_mem_nil, or_false] at hc
    rcases hc with rfl | rfl | rfl | rfl
    · exact toNat_digitChar_lt _
    · exact toNat_digitChar_lt _
    · exact toNat_digitChar_lt _
    · decide
  | case4 a b d rest ih =>
    simp only [List.mem_cons] at hc
    rcases hc with rfl | rfl | rfl | rfl | hc
    · exact toNat_digitChar_lt _
    · exact toNat_digitChar_lt _
    · exact toNat_digitChar_lt _
    · exact toNat_digitChar_lt _
    · exact ih hc

theorem digit?_digitChar {n : Nat} (h : n < 64) : digit? (digitChar n) = some n := by
  have hall : ∀ n < 64, digit? (digitChar n) = some n := by decide
  exact hall n h

theorem digitChar_ne_filling {n : Nat} (h : n < 64) : digitChar n ≠ '=' := by
  have hall : ∀ n < 64, digitChar n ≠ '=' := by decide
  exact hall n h

theorem lt_of_digit? {c : Char} {n : Nat} (h : digit? c = some n) : n < 64 ∧ c ≠ '=' := by
  refine ⟨?_, fun heq => ?_⟩
  · simp only [digit?] at h
    split_ifs at h
    all_goals
      obtain rfl := Option.some.inj h
      omega
  · rw [heq] at h
    cases h

/-- A digit is taken for its number. -/
theorem readFrom_digit (strict : Bool) (held : Held) {c : Char} {n : Nat} (hc : digit? c = some n)
    (cs : List Char) :
    readFrom strict held 0 false (c :: cs) =
      (readFrom strict (held.push n).2 0 false cs).map ((held.push n).1 ++ ·) := by
  rw [readFrom, hc]
  · simp
  · exact (lt_of_digit? hc).2

theorem readFrom_digitChar (strict : Bool) (held : Held) {n : Nat} (h : n < 64) (cs : List Char) :
    readFrom strict held 0 false (digitChar n :: cs) =
      (readFrom strict (held.push n).2 0 false cs).map ((held.push n).1 ++ ·) :=
  readFrom_digit strict held (digit?_digitChar h) cs

/-- A byte is put together from the parts of its number. -/
theorem ofNat_eq {n : Nat} {a : UInt8} (h : n = a.toNat) : UInt8.ofNat n = a := by
  rw [h, UInt8.ofNat_toNat]

/-- **Bytes are read back**, by either reader. -/
theorem readFrom_encode (strict : Bool) (bytes : List UInt8) :
    readFrom strict .none 0 false (encode bytes) = some bytes := by
  have hlt (a : UInt8) : a.toNat < 256 := a.toNat_lt
  fun_induction encode bytes with
  | case1 => rfl
  | case2 a =>
    have ha := hlt a
    have hbyte : UInt8.ofNat (a.toNat / 4 * 4 + a.toNat % 4 * 16 / 16) = a := ofNat_eq (by omega)
    rw [readFrom_digitChar strict _ (by omega), readFrom_digitChar strict _ (by omega)]
    simp only [Held.push, readFrom, Held.filling, hbyte]
    simp
  | case3 a b =>
    have ha := hlt a
    have hb := hlt b
    have hfirst : UInt8.ofNat (a.toNat / 4 * 4 + (a.toNat % 4 * 16 + b.toNat / 16) / 16) = a :=
      ofNat_eq (by omega)
    have hsecond : UInt8.ofNat ((a.toNat % 4 * 16 + b.toNat / 16) % 16 * 16 +
        b.toNat % 16 * 4 / 4) = b := ofNat_eq (by omega)
    rw [readFrom_digitChar strict _ (by omega), readFrom_digitChar strict _ (by omega),
      readFrom_digitChar strict _ (by omega)]
    simp only [Held.push, readFrom, Held.filling, hfirst, hsecond]
    simp
  | case4 a b c rest ih =>
    have ha := hlt a
    have hb := hlt b
    have hc := hlt c
    have hfirst : UInt8.ofNat (a.toNat / 4 * 4 + (a.toNat % 4 * 16 + b.toNat / 16) / 16) = a :=
      ofNat_eq (by omega)
    have hsecond : UInt8.ofNat ((a.toNat % 4 * 16 + b.toNat / 16) % 16 * 16 +
        (b.toNat % 16 * 4 + c.toNat / 64) / 4) = b := ofNat_eq (by omega)
    have hthird : UInt8.ofNat ((b.toNat % 16 * 4 + c.toNat / 64) % 4 * 64 + c.toNat % 64) = c :=
      ofNat_eq (by omega)
    rw [readFrom_digitChar strict _ (by omega), readFrom_digitChar strict _ (by omega),
      readFrom_digitChar strict _ (by omega), readFrom_digitChar strict _ (by omega)]
    simp only [Held.push, ih, hfirst, hsecond, hthird]
    simp

theorem head?_encode_ne (bytes : List UInt8) : (encode bytes).head? ≠ some '=' := by
  have hfirst (a : UInt8) : digitChar (a.toNat / 4) ≠ '=' :=
    digitChar_ne_filling (by have := a.toNat_lt; omega)
  fun_cases encode bytes with
  | case1 => nofun
  | case2 a => exact fun h => hfirst a (Option.some.inj h)
  | case3 a b => exact fun h => hfirst a (Option.some.inj h)
  | case4 a b c rest => exact fun h => hfirst a (Option.some.inj h)

/-- **Bytes are read back by the strict reader.** -/
theorem decodeStrict_encode (bytes : List UInt8) : decodeStrict (encode bytes) = some bytes := by
  rw [decodeStrict, if_neg (head?_encode_ne bytes), readFrom_encode]

/-! ## What the strict reader takes -/

/-- How bytes are written in base64: three of them as a group of four digits, which have the value
of the bytes, and one or two at the end as a group that filling completes, whose last bits are
passed over.  Behind whole groups there may be filling all the same. -/
inductive Writes : List Char → List UInt8 → Prop
  | filling (n : Nat) : Writes (List.replicate n '=') []
  | one {c d : Char} {m n : Nat} {x : UInt8} (hc : digit? c = some m) (hd : digit? d = some n)
      (value : x.toNat = (m * 64 + n) / 16) : Writes [c, d, '=', '='] [x]
  | two {c d e : Char} {m n k : Nat} {x y : UInt8} (hc : digit? c = some m)
      (hd : digit? d = some n) (he : digit? e = some k)
      (value : x.toNat * 256 + y.toNat = (m * 4096 + n * 64 + k) / 4) :
      Writes [c, d, e, '='] [x, y]
  | group {c d e f : Char} {m n k l : Nat} {x y z : UInt8} {cs : List Char} {bytes : List UInt8}
      (hc : digit? c = some m) (hd : digit? d = some n) (he : digit? e = some k)
      (hf : digit? f = some l)
      (value : x.toNat * 65536 + y.toNat * 256 + z.toNat = m * 262144 + n * 4096 + k * 64 + l)
      (rest : Writes cs bytes) : Writes (c :: d :: e :: f :: cs) (x :: y :: z :: bytes)

variable {held : Held} {pads m : Nat} {c : Char} {cs : List Char} {bytes : List UInt8}

/-- A digit is taken, or the text begins with filling. -/
theorem readFrom_cons_eq_some (h : readFrom true held 0 false (c :: cs) = some bytes) :
    c = '=' ∨ ∃ k rest, digit? c = some k ∧ readFrom true (held.push k).2 0 false cs = some rest ∧
      (held.push k).1 ++ rest = bytes := by
  by_cases hc : c = '='
  · exact .inl hc
  · rw [readFrom] at h
    · split at h
      · cases h
      · rename_i k hk
        obtain ⟨rest, hrest, rfl⟩ := Option.map_eq_some_iff.mp h
        exact .inr ⟨k, rest, hk, hrest, rfl⟩
    · exact hc

/-- Once there has been filling, no digit is taken. -/
theorem eq_filling_of_readFrom (h : readFrom true held pads true (c :: cs) = some bytes) :
    c = '=' := by
  by_contra hc
  rw [readFrom] at h
  · split at h <;> simp at h
  · exact hc

/-- Behind filling nothing but filling may stand, where nothing is held. -/
theorem readFrom_none_filled :
    readFrom true .none pads true cs = some bytes ↔
      bytes = [] ∧ ∃ n, cs = List.replicate n '=' := by
  induction cs with
  | nil =>
    refine ⟨fun h => ⟨(Option.some.inj h).symm, 0, rfl⟩, ?_⟩
    rintro ⟨rfl, -⟩
    rfl
  | cons c cs ih =>
    constructor
    · intro h
      obtain rfl := eq_filling_of_readFrom h
      obtain ⟨hbytes, n, rfl⟩ := ih.mp h
      exact ⟨hbytes, n + 1, rfl⟩
    · rintro ⟨rfl, n, hn⟩
      obtain ⟨n, rfl⟩ : ∃ k, n = k + 1 :=
        Nat.exists_eq_succ_of_ne_zero (by rintro rfl; cases hn)
      obtain ⟨rfl, hcs⟩ := List.cons.inj hn
      exact ih.mpr ⟨rfl, n, hcs⟩

/-- A single digit is completed by no filling. -/
theorem readFrom_six_filled : readFrom true (.six m) pads true cs = none := by
  induction cs with
  | nil => rfl
  | cons c cs ih =>
    by_contra h
    obtain ⟨bytes, hbytes⟩ := Option.ne_none_iff_exists'.mp h
    obtain rfl := eq_filling_of_readFrom hbytes
    exact h ih

/-! ### The digits of a group, one by one -/

theorem readFrom_none_cases (h : readFrom true .none 0 false cs = some bytes) :
    (bytes = [] ∧ ∃ n, cs = List.replicate n '=') ∨
      ∃ c m left, cs = c :: left ∧ digit? c = some m ∧
        readFrom true (.six m) 0 false left = some bytes := by
  cases cs with
  | nil => exact .inl ⟨(Option.some.inj h).symm, 0, rfl⟩
  | cons c left =>
    rcases readFrom_cons_eq_some h with rfl | ⟨m, rest, hm, hrest, rfl⟩
    · obtain ⟨hbytes, n, rfl⟩ := readFrom_none_filled.mp h
      exact .inl ⟨hbytes, n + 1, rfl⟩
    · exact .inr ⟨c, m, left, rfl, hm, hrest⟩

theorem readFrom_six_cases (h : readFrom true (.six m) 0 false cs = some bytes) :
    ∃ d n left rest, cs = d :: left ∧ digit? d = some n ∧
      readFrom true (.four (n % 16)) 0 false left = some rest ∧
      bytes = UInt8.ofNat (m * 4 + n / 16) :: rest := by
  cases cs with
  | nil => cases h
  | cons d left =>
    rcases readFrom_cons_eq_some h with rfl | ⟨n, rest, hn, hrest, rfl⟩
    · exact absurd (readFrom_six_filled.symm.trans h) nofun
    · exact ⟨d, n, left, rest, rfl, hn, hrest, rfl⟩

theorem readFrom_four_cases (h : readFrom true (.four m) 0 false cs = some bytes) :
    (cs = ['=', '='] ∧ bytes = []) ∨
      ∃ e k left rest, cs = e :: left ∧ digit? e = some k ∧
        readFrom true (.two (k % 4)) 0 false left = some rest ∧
        bytes = UInt8.ofNat (m * 16 + k / 4) :: rest := by
  cases cs with
  | nil => cases h
  | cons e left =>
    rcases readFrom_cons_eq_some h with rfl | ⟨k, rest, hk, hrest, rfl⟩
    · refine .inl ?_
      -- one filling has been seen, and only a second one completes the group
      rcases left with - | ⟨f, left⟩
      · cases h
      · obtain rfl := eq_filling_of_readFrom h
        rcases left with - | ⟨g, left⟩
        · exact ⟨rfl, (Option.some.inj h).symm⟩
        · cases h
    · exact .inr ⟨e, k, left, rest, rfl, hk, hrest, rfl⟩

theorem readFrom_two_cases (h : readFrom true (.two m) 0 false cs = some bytes) :
    (cs = ['='] ∧ bytes = []) ∨
      ∃ f l left rest, cs = f :: left ∧ digit? f = some l ∧
        readFrom true .none 0 false left = some rest ∧
          bytes = UInt8.ofNat (m * 64 + l) :: rest := by
  cases cs with
  | nil => cases h
  | cons f left =>
    rcases readFrom_cons_eq_some h with rfl | ⟨l, rest, hl, hrest, rfl⟩
    · refine .inl ?_
      rcases left with - | ⟨g, left⟩
      · exact ⟨rfl, (Option.some.inj h).symm⟩
      · cases h
    · exact .inr ⟨f, l, left, rest, rfl, hl, hrest, rfl⟩

/-- What is read is written in the text, group by group. -/
theorem writes_of_readFrom {cs : List Char} {bytes : List UInt8}
    (h : readFrom true .none 0 false cs = some bytes) : Writes cs bytes := by
  rcases readFrom_none_cases h with ⟨rfl, n, rfl⟩ | ⟨c, m, cs, rfl, hm, hsix⟩
  · exact .filling n
  obtain ⟨d, n, cs, bytes, rfl, hn, hfour, rfl⟩ := readFrom_six_cases hsix
  have hmlt := (lt_of_digit? hm).1
  have hnlt := (lt_of_digit? hn).1
  have hx : (UInt8.ofNat (m * 4 + n / 16)).toNat = m * 4 + n / 16 :=
    UInt8.toNat_ofNat_of_lt (show m * 4 + n / 16 < 256 by omega)
  rcases readFrom_four_cases hfour with ⟨rfl, rfl⟩ | ⟨e, k, cs, bytes, rfl, hk, htwo, rfl⟩
  · exact .one hm hn (by omega)
  have hklt := (lt_of_digit? hk).1
  have hy : (UInt8.ofNat (n % 16 * 16 + k / 4)).toNat = n % 16 * 16 + k / 4 :=
    UInt8.toNat_ofNat_of_lt (show n % 16 * 16 + k / 4 < 256 by omega)
  rcases readFrom_two_cases htwo with ⟨rfl, rfl⟩ | ⟨f, l, cs, bytes, rfl, hl, hrest, rfl⟩
  · exact .two hm hn hk (by omega)
  have hllt := (lt_of_digit? hl).1
  have hz : (UInt8.ofNat (k % 4 * 64 + l)).toNat = k % 4 * 64 + l :=
    UInt8.toNat_ofNat_of_lt (show k % 4 * 64 + l < 256 by omega)
  exact .group hm hn hk hl (by omega) (writes_of_readFrom hrest)
termination_by cs.length

theorem readFrom_of_writes (h : Writes cs bytes) : readFrom true .none 0 false cs = some bytes := by
  have hlt (x : UInt8) : x.toNat < 256 := x.toNat_lt
  induction h with
  | filling n =>
    cases n with
    | zero => rfl
    | succ n => exact readFrom_none_filled.mpr ⟨rfl, n, rfl⟩
  | @one c d m n x hc hd value =>
    have hdlt := (lt_of_digit? hd).1
    have hx : UInt8.ofNat (m * 4 + n / 16) = x := ofNat_eq (by omega)
    rw [readFrom_digit true _ hc, readFrom_digit true _ hd]
    simp [Held.push, readFrom, Held.filling, hx]
  | @two c d e m n k x y hc hd he value =>
    have hdlt := (lt_of_digit? hd).1
    have helt := (lt_of_digit? he).1
    have hy' := hlt y
    have hx : UInt8.ofNat (m * 4 + n / 16) = x := ofNat_eq (by omega)
    have hy : UInt8.ofNat (n % 16 * 16 + k / 4) = y := ofNat_eq (by omega)
    rw [readFrom_digit true _ hc, readFrom_digit true _ hd, readFrom_digit true _ he]
    simp [Held.push, readFrom, Held.filling, hx, hy]
  | @group c d e f m n k l x y z cs bytes hc hd he hf value rest ih =>
    have hdlt := (lt_of_digit? hd).1
    have helt := (lt_of_digit? he).1
    have hflt := (lt_of_digit? hf).1
    have hy' := hlt y
    have hz' := hlt z
    have hx : UInt8.ofNat (m * 4 + n / 16) = x := ofNat_eq (by omega)
    have hy : UInt8.ofNat (n % 16 * 16 + k / 4) = y := ofNat_eq (by omega)
    have hz : UInt8.ofNat (k % 4 * 64 + l) = z := ofNat_eq (by omega)
    rw [readFrom_digit true _ hc, readFrom_digit true _ hd, readFrom_digit true _ he,
      readFrom_digit true _ hf]
    simp [Held.push, ih, hx, hy, hz]

/-- **What the strict reader takes**: what is written in base64, unless it opens with filling. -/
theorem decodeStrict_eq_some_iff :
    decodeStrict cs = some bytes ↔ cs.head? ≠ some '=' ∧ Writes cs bytes := by
  by_cases hopen : cs.head? = some '='
  · simp [decodeStrict, hopen]
  · rw [decodeStrict, if_neg hopen]
    exact ⟨fun h => ⟨hopen, writes_of_readFrom h⟩, fun h => readFrom_of_writes h.2⟩

end Base64
end Text
end RegistryAuth
