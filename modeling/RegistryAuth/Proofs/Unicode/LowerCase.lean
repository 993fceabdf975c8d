import Mathlib
import RegistryAuth.Proofs.Unicode.Runs
import RegistryAuth.Unicode.LetterCase

/-!
# Lower case beyond ASCII

Only one character beyond ASCII has a lower-case form that is all ASCII: the sign of the kelvin,
which becomes a plain k.  Every other leaves a character beyond ASCII behind
(`exists_foreign_of_lowerChar`), and so does every text that holds one (`exists_foreign_of_lower`).
So a text in ASCII is the lower-case form of such a text at best if that writes a k with this sign.
-/

namespace RegistryAuth
namespace Unicode

/-- The sign of the kelvin. -/
def kelvin : Char := Char.ofNat 0x212A

/-- The run keeps what it moves beyond ASCII and among the characters, the sign of the kelvin
apart. -/
def Run.keepsForeign (run : Run) : Bool :=
  decide (run.last < 128) || decide (run.first = 0x212A ∧ run.last = 0x212A) ||
    decide (128 ≤ run.first + run.value ∧ run.last + run.value < 0xD800) ||
    decide (0xE000 ≤ run.first + run.value ∧ run.last + run.value < 0x110000)

set_option maxRecDepth 20000 in
theorem allWords_lowerRuns : lowerRuns.AllWords Run.keepsForeign := by
  refine ⟨_, _, rfl, rfl, ?_⟩
  decide +kernel

/-- A letter beyond ASCII is moved beyond ASCII, the sign of the kelvin apart. -/
theorem le_toNat_shift {c : Char} (hforeign : 128 ≤ c.toNat) (hkelvin : c ≠ kelvin) :
    128 ≤ (shift lowerRuns c).toNat := by
  have hcode : c.toNat ≠ 0x212A := fun h => hkelvin (by rw [kelvin, ← h, Char.ofNat_toNat])
  rw [shift, Runs.valueAt]
  cases hfind : lowerRuns.find? c.toNat with
  | none => simpa using hforeign
  | some run =>
    obtain ⟨hkeeps, hfirst, hlast⟩ := allWords_lowerRuns.of_find? hfind
    simp only [Run.keepsForeign, Bool.or_eq_true, decide_eq_true_eq] at hkeeps
    dsimp only
    have hvalid : Nat.isValidChar ((c.toNat : Int) + run.value).toNat := by
      rw [Nat.isValidChar]
      omega
    rw [Char.toNat_ofNat, if_pos hvalid]
    omega

/-- A character beyond ASCII leaves one beyond ASCII behind, the sign of the kelvin apart. -/
theorem exists_foreign_of_lowerChar {c : Char} (hforeign : 128 ≤ c.toNat) (hkelvin : c ≠ kelvin)
    (before after : List Char) : ∃ d ∈ lowerChar before c after, 128 ≤ d.toNat := by
  unfold lowerChar
  rw [if_neg (by omega)]
  split
  · refine ⟨_, List.mem_singleton_self _, ?_⟩
    unfold lowerSigma
    dsimp only
    split_ifs <;> decide
  · split
    · exact ⟨Char.ofNat 0x307, by simp, by decide⟩
    · exact ⟨_, List.mem_singleton_self _, le_toNat_shift hforeign hkelvin⟩

theorem exists_foreign_of_lowerFrom {cs : List Char} {c : Char} (hc : c ∈ cs)
    (hforeign : 128 ≤ c.toNat) (hkelvin : c ≠ kelvin) :
    ∀ before, ∃ d ∈ lowerFrom before cs, 128 ≤ d.toNat := by
  induction cs with
  | nil => cases hc
  | cons e cs ih =>
    intro before
    rw [lowerFrom]
    rcases List.mem_cons.mp hc with rfl | hc
    · obtain ⟨d, hd, hdforeign⟩ := exists_foreign_of_lowerChar hforeign hkelvin before cs
      exact ⟨d, List.mem_append_left _ hd, hdforeign⟩
    · obtain ⟨d, hd, hdforeign⟩ := ih hc (e :: before)
      exact ⟨d, List.mem_append_right _ hd, hdforeign⟩

/-- What holds a character beyond ASCII does so in lower case, the sign of the kelvin apart. -/
theorem exists_foreign_of_lower {cs : List Char} {c : Char} (hc : c ∈ cs)
    (hforeign : 128 ≤ c.toNat) (hkelvin : c ≠ kelvin) : ∃ d ∈ lower cs, 128 ≤ d.toNat :=
  exists_foreign_of_lowerFrom hc hforeign hkelvin []

end Unicode
end RegistryAuth
