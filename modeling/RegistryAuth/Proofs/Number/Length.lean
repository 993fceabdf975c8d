import Mathlib
import RegistryAuth.Number.Reading
import RegistryAuth.Proofs.Unicode.Ascii

/-!
# Numbers that are written in digits

A whole number in base ten may have 4300 digits.  Up to that, digits are read by their value
(`Number.whole_eq_ofDigits`), and there is no other fault in them (`Number.whole_of_digits`).  A
text that holds more of them in a row cannot be read as a number (`Number.HoldsLong`).
-/

namespace RegistryAuth
namespace Number

/-- The text holds a row of `n` digits, which are more than a number may have. -/
def HoldsLong (text : List Char) (n : Nat) : Prop :=
  ∃ ds, ds <:+: text ∧ (∀ d ∈ ds, d.isDigit = true) ∧ ds.length = n ∧ maxDigits < n

theorem isDigit_iff {c : Char} : c.isDigit = true ↔ 48 ≤ c.toNat ∧ c.toNat ≤ 57 := by
  simp only [Char.isDigit, Bool.and_eq_true, decide_eq_true_eq, UInt32.le_iff_toNat_le, ge_iff_le]
  rfl

theorem digitRun?_cons {d : Char} (hd : d.isDigit = true) (ds : List Char) (afterDigit : Bool)
    (value count : Nat) :
    digitRun? 10 afterDigit value count (d :: ds) =
      digitRun? 10 true (value * 10 + (d.toNat - 48)) (count + 1) ds := by
  have hbound := isDigit_iff.mp hd
  have hbar : d ≠ '_' := fun heq => absurd (heq ▸ hd) (by decide)
  have hvalue : digitValue? d = some (d.toNat - 48) := by
    simp only [digitValue?, hbound, and_self, if_true]
  rw [digitRun?, if_neg hbar, hvalue]
  exact if_pos (by omega)

/-- A row of digits is read to its end; its digits add to the value, and they are counted. -/
theorem digitRun?_of_digits {ds : List Char} (h : ∀ d ∈ ds, d.isDigit = true) (value count : Nat) :
    digitRun? 10 true value count ds =
      some ⟨ds.foldl (fun n c => 10 * n + (c.toNat - 48)) value, count + ds.length, []⟩ := by
  induction ds generalizing value count with
  | nil => rfl
  | cons d ds ih =>
    obtain ⟨hd, hds⟩ := List.forall_mem_cons.mp h
    rw [digitRun?_cons hd, ih hds, List.foldl_cons, Nat.mul_comm value, List.length_cons,
      Nat.add_right_comm, Nat.add_assoc count]

/-- **Digits in ASCII are read by their value**, unless there are too many of them. -/
theorem whole_eq_ofDigits {ds : List Char} (h : ∀ d ∈ ds, d.isDigit = true) (hne : ds ≠ []) :
    whole 10 ds =
      if maxDigits < ds.length then .error (.tooLong ds.length) else .ok (ofDigits ds) := by
  have hascii : toAscii ds = ds := by
    rw [toAscii, if_pos]
    rw [List.all_eq_true]
    exact fun c hc => decide_eq_true (Unicode.toNat_lt_of_isDigit (h c hc))
  obtain ⟨d, ds, rfl⟩ := List.exists_cons_of_ne_nil hne
  have hd := h d List.mem_cons_self
  have hlayout : (d :: ds).dropWhile isLayout = d :: ds := by
    have hnone : isLayout d = false :=
      Char.forall_ascii (P := fun d => d.isDigit = true → isLayout d = false) (by decide)
        (Unicode.toNat_lt_of_isDigit hd) hd
    exact List.dropWhile_cons_of_neg (Bool.eq_false_iff.mp hnone)
  have hsign : takeSign (d :: ds) = (false, d :: ds) := by
    rw [takeSign.eq_def]
    split
    · rename_i heq
      rw [(List.cons.inj heq).1] at hd
      exact absurd hd (by decide)
    · rename_i heq
      rw [(List.cons.inj heq).1] at hd
      exact absurd hd (by decide)
    · rfl
  have hmark : dropMark 10 (d :: ds) = d :: ds := by
    rw [dropMark.eq_def]
    split
    · rename_i heq
      simp [heq]
    · rfl
  have hrun : digitRun? 10 false 0 0 (d :: ds) =
      some ⟨ofDigits (d :: ds), (d :: ds).length, []⟩ := by
    have hread := digitRun?_of_digits h 0 0
    rwa [digitRun?_cons hd, ← digitRun?_cons hd ds false, Nat.zero_add] at hread
  rw [whole, hascii, hlayout, hsign]
  have hlimit : (!unlimited 10 && decide (maxDigits < (d :: ds).length)) =
      decide (maxDigits < (d :: ds).length) := rfl
  simp only [hmark, hrun, hlimit, decide_eq_true_eq]
  rfl

/-- There is no other fault in digits than that there are too many of them. -/
theorem whole_of_digits {ds : List Char} (h : ∀ d ∈ ds, d.isDigit = true) (hne : ds ≠ [])
    {e : NumberError} (herror : whole 10 ds = .error e) :
    e = .tooLong ds.length ∧ maxDigits < ds.length := by
  rw [whole_eq_ofDigits h hne] at herror
  split at herror
  · next hlong => exact ⟨(Except.error.inj herror).symm, hlong⟩
  · cases herror

/-- Digits without a sign are read as no negative number. -/
theorem whole_nonneg {ds : List Char} (h : ∀ d ∈ ds, d.isDigit = true) {n : Int}
    (hread : whole 10 ds = .ok n) : 0 ≤ n := by
  by_cases hne : ds = []
  · subst hne
    cases hread
  · rw [whole_eq_ofDigits h hne] at hread
    split at hread
    · cases hread
    · rw [← Except.ok.inj hread]
      exact Int.natCast_nonneg _

end Number
end RegistryAuth
