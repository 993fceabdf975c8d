import Mathlib
import RegistryAuth.Proofs.Except
import RegistryAuth.Text.Utf8

/-!
# Reading UTF-8 that was written

Each character is told by the bytes that were written for it, whatever follows
(`front_encodeChar`), and so a text is read back from its bytes (`decode_encode`).  Nothing else
can be read: a character that is found has the bytes that are written for it
(`encodeChar_append_of_front`), and so bytes are a text exactly if they are written for one
(`decode_eq_ok_iff`).
-/

namespace RegistryAuth
namespace Text
namespace Utf8

theorem toNat_ofNat {n : Nat} (h : n < 256) : (UInt8.ofNat n).toNat = n :=
  UInt8.toNat_ofNat_of_lt h

/-- A byte that continues a character gives its six bits back. -/
theorem tail?_ofNat {n : Nat} (h : n < 64) : tail? (UInt8.ofNat (0x80 + n)) = some n := by
  rw [tail?, toNat_ofNat (by omega), if_pos (by omega), Nat.add_sub_cancel_left]

/-- The second byte fits the first one, unless the form is too long, half of a surrogate pair or
beyond the character set. -/
theorem seconds_ofNat {n k : Nat} (hk : k < 64) (hthree : n = 0xE0 → 32 ≤ k)
    (hsurrogate : n = 0xED → k < 32) (hfour : n = 0xF0 → 16 ≤ k) (hlarge : n = 0xF4 → k < 16) :
    seconds n (UInt8.ofNat (0x80 + k)) = true := by
  rw [seconds, tail?_ofNat hk, toNat_ofNat (by omega)]
  simp
  omega

/-- A character is found in front of the bytes that were written for it. -/
theorem front_encodeChar (c : Char) (rest : List UInt8) :
    ∃ b bs, encodeChar c = b :: bs ∧ front b (bs ++ rest) = .char c (bs.length + 1) := by
  have hvalid : c.toNat < 0xD800 ∨ 0xDFFF < c.toNat ∧ c.toNat < 0x110000 := c.valid
  have hchar (n : Nat) (hn : n = c.toNat) : Char.ofNat n = c := by rw [hn, Char.ofNat_toNat]
  unfold encodeChar
  simp only
  split_ifs with hone htwo hthree
  · refine ⟨_, [], rfl, ?_⟩
    simp only [front, toNat_ofNat (show c.toNat < 256 by omega), if_pos hone, Char.ofNat_toNat,
      List.length_nil]
  · refine ⟨_, [_], rfl, ?_⟩
    simp only [front, toNat_ofNat (show 0xC0 + c.toNat / 64 < 256 by omega), List.cons_append,
      tail?_ofNat (show c.toNat % 64 < 64 by omega)]
    rw [if_neg (by omega), if_neg (by omega), if_pos (by omega), hchar _ (by omega)]
    rfl
  · have hseconds : seconds (0xE0 + c.toNat / 4096)
        (UInt8.ofNat (0x80 + c.toNat / 64 % 64)) = true :=
      seconds_ofNat (by omega) (by omega) (by omega) (by omega) (by omega)
    refine ⟨_, [_, _], rfl, ?_⟩
    simp only [front, toNat_ofNat (show 0xE0 + c.toNat / 4096 < 256 by omega), List.cons_append,
      tail?_ofNat (show c.toNat % 64 < 64 by omega), hseconds,
      toNat_ofNat (show 0x80 + c.toNat / 64 % 64 < 256 by omega)]
    rw [if_neg (by omega), if_neg (by omega), if_neg (by omega), if_pos (by omega),
      if_neg (by simp), if_pos (by omega), hchar _ (by omega)]
    rfl
  · have hseconds : seconds (0xF0 + c.toNat / 262144)
        (UInt8.ofNat (0x80 + c.toNat / 4096 % 64)) = true :=
      seconds_ofNat (by omega) (by omega) (by omega) (by omega) (by omega)
    refine ⟨_, [_, _, _], rfl, ?_⟩
    simp only [front, toNat_ofNat (show 0xF0 + c.toNat / 262144 < 256 by omega), List.cons_append,
      tail?_ofNat (show c.toNat % 64 < 64 by omega),
      tail?_ofNat (show c.toNat / 64 % 64 < 64 by omega), hseconds,
      toNat_ofNat (show 0x80 + c.toNat / 4096 % 64 < 256 by omega)]
    rw [if_neg (by omega), if_neg (by omega), if_neg (by omega), if_pos (by omega),
      if_neg (by simp), if_neg (by omega), hchar _ (by omega)]
    rfl

/-- A text is read back from its bytes. -/
theorem decode_encode (cs : List Char) : decode (encode cs) = .ok cs := by
  have hfrom : ∀ position, decodeFrom position (encode cs) = .ok cs := by
    induction cs with
    | nil => intro position; rw [encode, List.flatMap_nil, decodeFrom]
    | cons c cs ih =>
      intro position
      obtain ⟨b, bs, hbytes, hfront⟩ := front_encodeChar c (encode cs)
      have hencode : encode (c :: cs) = b :: (bs ++ encode cs) := by
        rw [encode, List.flatMap_cons, hbytes]
        rfl
      rw [hencode, decodeFrom, hfront]
      simp only [Nat.add_sub_cancel, List.drop_left, ih]
      rfl
  exact hfrom 0

/-! ## What can be read -/

theorem tail?_eq_some {b : UInt8} {k : Nat} (h : tail? b = some k) :
    k < 64 ∧ b.toNat = 0x80 + k ∧ UInt8.ofNat (0x80 + k) = b := by
  rw [tail?] at h
  split_ifs at h with hb
  obtain rfl := Option.some.inj h
  have hsum : 0x80 + (b.toNat - 0x80) = b.toNat := by omega
  rw [hsum, UInt8.ofNat_toNat]
  exact ⟨by omega, rfl, rfl⟩

/-- A second byte continues the character, and the form is neither too long, nor half of a
surrogate pair, nor beyond the character set. -/
theorem of_seconds {n : Nat} {b : UInt8} (h : seconds n b = true) :
    ∃ k, tail? b = some k ∧ (n = 0xE0 → 32 ≤ k) ∧ (n = 0xED → k < 32) ∧
      (n = 0xF0 → 16 ≤ k) ∧ (n = 0xF4 → k < 16) := by
  cases htail : tail? b with
  | none => simp [seconds, htail] at h
  | some k =>
    obtain ⟨hk, hb, -⟩ := tail?_eq_some htail
    rw [seconds, htail, hb] at h
    simp at h
    exact ⟨k, rfl, by omega⟩

/-- The bytes of a character that is given by its number. -/
theorem encodeChar_ofNat {n : Nat} (h : n < 0xD800 ∨ 0xDFFF < n ∧ n < 0x110000) :
    encodeChar (Char.ofNat n) =
      if n < 0x80 then [UInt8.ofNat n]
      else if n < 0x800 then [UInt8.ofNat (0xC0 + n / 64), UInt8.ofNat (0x80 + n % 64)]
      else if n < 0x10000 then
        [UInt8.ofNat (0xE0 + n / 4096), UInt8.ofNat (0x80 + n / 64 % 64),
          UInt8.ofNat (0x80 + n % 64)]
      else
        [UInt8.ofNat (0xF0 + n / 262144), UInt8.ofNat (0x80 + n / 4096 % 64),
          UInt8.ofNat (0x80 + n / 64 % 64), UInt8.ofNat (0x80 + n % 64)] := by
  have hvalid : n.isValidChar := h
  have hnat : (Char.ofNat n).toNat = n := by rw [Char.toNat_ofNat, if_pos hvalid]
  simp only [encodeChar, hnat]

/-- What is found at the front of a text stands there with the bytes that are written for it. -/
theorem encodeChar_append_of_front {b : UInt8} {bs : List UInt8} {c : Char} {n : Nat}
    (h : front b bs = .char c n) : encodeChar c ++ bs.drop (n - 1) = b :: bs := by
  have hbyte (m : Nat) (hm : m = b.toNat) : UInt8.ofNat m = b := by rw [hm, UInt8.ofNat_toNat]
  have htail {b' : UInt8} {m k : Nat} (hm : m = k) (hk : tail? b' = some k) :
      UInt8.ofNat (0x80 + m) = b' := hm ▸ (tail?_eq_some hk).2.2
  have hb : b.toNat < 256 := b.toNat_lt
  revert h
  fun_cases front b bs with
  | case1 bs m hone =>
    rintro ⟨⟩
    rw [encodeChar_ofNat (by omega), if_pos hone, hbyte m rfl]
    rfl
  | case5 m hone hbad htwo b1 rest k hlast =>
    rintro ⟨⟩
    have hk := (tail?_eq_some hlast).1
    rw [encodeChar_ofNat (by omega), if_neg (by omega), if_pos (by omega), hbyte _ (by omega),
      htail (by omega) hlast]
    rfl
  | case10 m hone hbad htwo hlarge b1 hseconds b2 rest k2 hlast k1 hthree =>
    rintro ⟨⟩
    obtain ⟨k, hnext, hshort, hsurrogate, -, -⟩ := of_seconds (by simpa using hseconds)
    obtain ⟨hk, hb1, -⟩ := tail?_eq_some hnext
    obtain ⟨hk2, -, -⟩ := tail?_eq_some hlast
    have hk1 : k1 = k := by omega
    rw [encodeChar_ofNat (by omega), if_neg (by omega), if_neg (by omega), if_pos (by omega),
      hbyte _ (by omega), htail (by omega) hnext, htail (by omega) hlast]
    rfl
  | case13 m hone hbad htwo hlarge b1 hseconds b2 k2 hthird k1 hthree b3 rest k3 hlast =>
    rintro ⟨⟩
    obtain ⟨k, hnext, -, -, hshort, hbeyond⟩ := of_seconds (by simpa using hseconds)
    obtain ⟨hk, hb1, -⟩ := tail?_eq_some hnext
    obtain ⟨hk2, -, -⟩ := tail?_eq_some hthird
    obtain ⟨hk3, -, -⟩ := tail?_eq_some hlast
    have hk1 : k1 = k := by omega
    rw [encodeChar_ofNat (by omega), if_neg (by omega), if_neg (by omega), if_neg (by omega),
      hbyte _ (by omega), htail (by omega) hnext, htail (by omega) hthird, htail (by omega) hlast]
    rfl
  | _ => nofun

theorem encode_of_decodeFrom {position : Nat} {bytes : List UInt8} {cs : List Char}
    (h : decodeFrom position bytes = .ok cs) : encode cs = bytes := by
  fun_induction decodeFrom position bytes generalizing cs with
  | case1 =>
    cases h
    rfl
  | case2 position b bs c n hfront ih =>
    obtain ⟨rest, hrest, rfl⟩ := Except.map_eq_ok h
    rw [encode, List.flatMap_cons, ← encode, ih hrest]
    exact encodeChar_append_of_front hfront
  | case3 => cases h

/-- What is read is written by the bytes that it is read from. -/
theorem decode_eq_ok_iff {bytes : List UInt8} {cs : List Char} :
    decode bytes = .ok cs ↔ encode cs = bytes :=
  ⟨encode_of_decodeFrom, fun h => h ▸ decode_encode cs⟩

/-! ## Texts in ASCII -/

/-- Texts in ASCII are written by the codes of their characters. -/
theorem map_encode_of_ascii {cs : List Char} (h : ∀ c ∈ cs, c.toNat < 128) :
    (encode cs).map (fun b => Char.ofNat b.toNat) = cs := by
  induction cs with
  | nil => rfl
  | cons c cs ih =>
    obtain ⟨hc, hcs⟩ := List.forall_mem_cons.mp h
    rw [encode, List.flatMap_cons, ← encode, List.map_append, ih hcs, encodeChar]
    rw [if_pos hc, List.map_singleton, toNat_ofNat (by omega), Char.ofNat_toNat]
    rfl

end Utf8
end Text
end RegistryAuth
