import Mathlib
import RegistryAuth.Proofs.Unicode.Runs
import RegistryAuth.Unicode.CellWidth

/-!
# What the table of cells says

No character fills more than two cells (`cellWidth_le_two`), and the characters of frames
fill one (`cellWidth_of_isFrame`), as those of ASCII do that are no controls.
-/

namespace RegistryAuth
namespace Unicode

/-- The run says two cells at most, and holds no character of a frame nor the sign of what is
left out. -/
def Run.sparesFrames (run : Run) : Bool :=
  decide (run.value ≤ 2) && (decide (run.last < 0x2500) || decide (0x2580 ≤ run.first)) &&
    (decide (run.last < 0x2026) || decide (0x2026 < run.first))

set_option maxRecDepth 20000 in
theorem allWords_cellRuns : cellRuns.AllWords Run.sparesFrames := by
  refine ⟨_, _, rfl, rfl, ?_⟩
  decide +kernel

set_option maxRecDepth 20000 in
/-- The runs of what the selector makes wider begin behind the blank. -/
theorem allWords_widenedRuns : widenedRuns.AllWords fun run => decide (32 < run.first) := by
  refine ⟨_, _, rfl, rfl, ?_⟩
  decide +kernel

theorem cellRuns_find? {n : Nat} {run : Run} (h : cellRuns.find? n = some run) :
    run.value ≤ 2 ∧ ¬(0x2500 ≤ n ∧ n < 0x2580) ∧ n ≠ 0x2026 := by
  have hall := allWords_cellRuns.of_find? h
  simp only [Run.sparesFrames, Bool.and_eq_true, Bool.or_eq_true, decide_eq_true_eq] at hall
  omega

/-- The selector makes no blank wider. -/
theorem isWidened_blank : isWidened ' ' = false := by
  rw [isWidened, Runs.holds, Option.isSome_eq_false_iff, Option.isNone_iff_eq_none]
  cases hfind : widenedRuns.find? ' '.toNat with
  | none => rfl
  | some run =>
    have hall := allWords_widenedRuns.of_find? hfind
    have hblank : ' '.toNat = 32 := rfl
    simp only [decide_eq_true_eq] at hall
    omega

theorem cellWidth_le_two (c : Char) : cellWidth c ≤ 2 := by
  have htable : (cellRuns.valueAt 1 c).toNat ≤ 2 := by
    rw [Runs.valueAt]
    cases hfind : cellRuns.find? c.toNat with
    | none => exact Nat.one_le_ofNat
    | some run => exact Int.toNat_le.mpr (cellRuns_find? hfind).1
  rw [cellWidth]
  by_cases hcontrol : isCellControl c = true
  · simp only [hcontrol, if_true, Nat.zero_le]
  · by_cases hascii : c.toNat < 127
    · simp only [hcontrol, hascii, Bool.false_eq_true, if_true, if_false, Nat.one_le_ofNat]
    · simpa only [hcontrol, hascii, Bool.false_eq_true, if_false] using htable

/-- What is written in ASCII and is no control fills one cell. -/
theorem cellWidth_of_ascii {c : Char} (h : 32 ≤ c.toNat ∧ c.toNat < 127) : cellWidth c = 1 := by
  have hcontrol : isCellControl c = false := by
    simp only [isCellControl, Bool.or_eq_false_iff, Bool.and_eq_false_iff, decide_eq_false_iff_not]
    omega
  rw [cellWidth, hcontrol, if_neg Bool.false_ne_true, if_pos h.2]

/-- A character of which the table says nothing fills one cell. -/
theorem cellWidth_of_find?_eq_none {c : Char} (hcontrol : isCellControl c = false)
    (h : cellRuns.find? c.toNat = none) : cellWidth c = 1 := by
  rw [cellWidth, hcontrol, if_neg Bool.false_ne_true, Runs.valueAt, h]
  exact ite_self _

/-- Whether `c` is drawn in frames or stands for what is left out. -/
def isFrame (c : Char) : Bool := (0x2500 ≤ c.toNat && c.toNat < 0x2580) || c = '…'

theorem cellWidth_of_isFrame {c : Char} (h : isFrame c = true) : cellWidth c = 1 := by
  have hcode : (0x2500 ≤ c.toNat ∧ c.toNat < 0x2580) ∨ c.toNat = 0x2026 := by
    simp only [isFrame, Bool.or_eq_true, Bool.and_eq_true, decide_eq_true_eq] at h
    exact h.imp_right fun h => by rw [h]; rfl
  refine cellWidth_of_find?_eq_none ?_ ?_
  · simp only [isCellControl, Bool.or_eq_false_iff, Bool.and_eq_false_iff, decide_eq_false_iff_not]
    omega
  · cases hfind : cellRuns.find? c.toNat with
    | none => rfl
    | some run =>
      have := cellRuns_find? hfind
      omega

end Unicode
end RegistryAuth
