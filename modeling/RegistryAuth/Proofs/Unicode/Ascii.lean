import Mathlib
import RegistryAuth.Text.Blank
import RegistryAuth.Unicode.LetterCase
import RegistryAuth.Unicode.Word

/-!
# Texts in ASCII

The maps and classes of the whole character set, on the characters that addresses and
headers are made of.

* `lower_eq_map_toLower`: a text in ASCII is put into lower case letter by letter, so that
  the neighbours of a letter do not count;
* `isWord_of_isAsciiWord`, `isAsciiWord_eq_false_of_isBlank`: in ASCII, names hold letters, digits
  and the underscore, and a blank ends them.
-/

namespace RegistryAuth

/-- What holds of 128 characters, one by one, holds of ASCII. -/
theorem Char.forall_ascii {P : Char → Prop} (h : ∀ n < 128, P (Char.ofNat n)) {c : Char}
    (hc : c.toNat < 128) : P c := by
  have hchar := h c.toNat hc
  rwa [Char.ofNat_toNat] at hchar

/-- Lower case leads from ASCII to ASCII. -/
theorem Char.toNat_toLower_lt {c : Char} (hc : c.toNat < 128) : c.toLower.toNat < 128 :=
  Char.forall_ascii (P := fun c => c.toLower.toNat < 128) (by decide) hc

namespace Unicode

theorem lowerFrom_eq_map_toLower {cs : List Char} (hcs : ∀ c ∈ cs, c.toNat < 128) :
    ∀ before : List Char, lowerFrom before cs = cs.map Char.toLower := by
  induction cs with
  | nil => intro before; rfl
  | cons c cs ih =>
    intro before
    obtain ⟨hc, hcs⟩ := List.forall_mem_cons.mp hcs
    rw [lowerFrom, lowerChar, if_pos hc, ih hcs, List.map_cons, List.singleton_append]

/-- A text in ASCII is put into lower case letter by letter. -/
theorem lower_eq_map_toLower {cs : List Char} (hcs : ∀ c ∈ cs, c.toNat < 128) :
    lower cs = cs.map Char.toLower :=
  lowerFrom_eq_map_toLower hcs []

/-- Letters, digits and the underscore are ASCII. -/
theorem toNat_lt_of_isAsciiWord {c : Char} (hc : isAsciiWord c = true) : c.toNat < 128 := by
  rw [isAsciiWord, Bool.or_eq_true, decide_eq_true_iff] at hc
  rcases hc with hc | rfl
  · simp only [Char.isAlphanum, Char.isAlpha, Char.isUpper, Char.isLower, Char.isDigit,
      Bool.or_eq_true, Bool.and_eq_true, decide_eq_true_eq, UInt32.le_iff_toNat_le, ge_iff_le] at hc
    change (((65 ≤ c.toNat ∧ c.toNat ≤ 90) ∨ (97 ≤ c.toNat ∧ c.toNat ≤ 122)) ∨
      (48 ≤ c.toNat ∧ c.toNat ≤ 57)) at hc
    omega
  · decide

theorem toNat_lt_of_isDigit {c : Char} (hc : c.isDigit = true) : c.toNat < 128 :=
  toNat_lt_of_isAsciiWord (by simp [isAsciiWord, Char.isAlphanum, hc])

theorem isWord_of_isAsciiWord {c : Char} (hc : isAsciiWord c = true) : isWord c = true := by
  rw [isWord, if_pos (toNat_lt_of_isAsciiWord hc), hc]

/-- A blank is none of the letters, digits and the underscore. -/
theorem isAsciiWord_eq_false_of_isBlank {c : Char} (hc : Text.isBlank c = true) :
    isAsciiWord c = false := by
  by_contra hword
  rw [Bool.not_eq_false] at hword
  have hblank := Char.forall_ascii (P := fun c => isAsciiWord c = true → Text.isBlank c = false)
    (by decide) (toNat_lt_of_isAsciiWord hword) hword
  rw [hblank] at hc
  cases hc

end Unicode
end RegistryAuth
