import RegistryAuth.Proofs.Unicode.Ascii
import RegistryAuth.Proofs.Unicode.Runs

/-!
# No blank stands in a name

A name is a run of letters, digits and underscores of any script, and blanks come from all of
Unicode, too.  No character is both (`isWord_eq_false_of_isBlank`): in ASCII one sees it, and beyond
ASCII no run of the table of word characters holds a blank.
-/

namespace RegistryAuth
namespace Unicode

/-- The ranges that blanks fill. -/
def blankRanges : List (Nat × Nat) :=
  [(0x09, 0x0D), (0x1C, 0x20), (0x85, 0x85), (0xA0, 0xA0), (0x1680, 0x1680), (0x2000, 0x200A),
    (0x2028, 0x2029), (0x202F, 0x202F), (0x205F, 0x205F), (0x3000, 0x3000)]

set_option maxRecDepth 20000 in
theorem allWords_wordRuns : wordRuns.AllWords (Run.avoids blankRanges) := by
  refine ⟨_, _, rfl, rfl, ?_⟩
  decide +kernel

/-- A blank ends a name. -/
theorem isWord_eq_false_of_isBlank {c : Char} (hc : Text.isBlank c = true) : isWord c = false := by
  unfold isWord
  split
  · exact isAsciiWord_eq_false_of_isBlank hc
  · refine allWords_wordRuns.holds_eq_false ?_
    simp only [Text.isBlank, Text.isBlankCode, Bool.or_eq_true, Bool.and_eq_true,
      decide_eq_true_eq] at hc
    simp only [blankRanges, List.mem_cons, List.not_mem_nil, or_false, exists_eq_or_imp,
      exists_eq_left]
    omega

end Unicode
end RegistryAuth
