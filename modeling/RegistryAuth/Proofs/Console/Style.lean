import RegistryAuth.Console.Style
import RegistryAuth.Proofs.Text.Cut
import RegistryAuth.Proofs.Unicode.Ascii

/-!
# Words that are no style

The words of a style are attributes and colors, and a word that is neither makes it none.  Only
the numbers of a color can fail to be read: `Style.numberless` is written as a color, and its
numbers are missing (`Style.parse?_numberless`).
-/

namespace RegistryAuth
namespace Style

set_option maxRecDepth 20000 in
/-- The names of colors are written without parentheses. -/
theorem not_mem_colorText : '(' ∉ colorText.toList := by
  obtain ⟨cs, htext, hcs⟩ : ∃ cs, colorText = String.ofList cs ∧ cs.all (· ≠ '(') = true :=
    ⟨_, rfl, by decide +kernel⟩
  rw [htext, String.toList_ofList]
  intro hmem
  simpa using List.all_eq_true.mp hcs _ hmem

theorem not_mem_colorNames {cs : List Char} (h : '(' ∈ cs) : colorNames.contains cs = false := by
  rw [Bool.eq_false_iff, ne_eq, List.contains_iff_mem]
  intro hmem
  have hmap := Text.mem_of_mem_splitOn (List.mem_of_mem_filter hmem) h
  obtain ⟨c, hc, hparen⟩ := List.mem_map.mp hmap
  split at hparen
  · exact absurd hparen (by decide)
  · exact not_mem_colorText (hparen ▸ hc)

/-- A color without the numbers of its parts. -/
def numberless : List Char := ['r', 'g', 'b', '(', ',', ',', ')']

theorem isColor_numberless : isColor numberless = .error (.notWhole 10 []) := by
  have hname : colorNames.contains numberless = false := not_mem_colorNames (by decide)
  have hdefault : (numberless = "default".toList) = False := by simp [numberless]
  unfold isColor
  simp only [hname, hdefault, decide_false, Bool.or_false, Bool.false_eq_true, if_false]
  rfl


/-- A word that is nothing else is read as a color, and fails as that does. -/
theorem readWords_of_isColor_eq_error {word : List Char} {rest : List (List Char)} {s : Style}
    {e : NumberError} (hon : Unicode.lower word ≠ "on".toList)
    (hnot : Unicode.lower word ≠ "not".toList) (hlink : Unicode.lower word ≠ "link".toList)
    (hattribute : attribute? (Unicode.lower word) = none)
    (hcolor : isColor (Unicode.lower word) = .error e) :
    readWords s (word :: rest) = .error e := by
  unfold readWords
  simp only [if_neg hon, if_neg hnot, if_neg hlink, hattribute, hcolor]

theorem parse?_of_word {word : List Char} (hwords : Text.words word = [word])
    (hnone : Text.trim word ≠ "none".toList) : parse? word = readWords plain [word] := by
  rw [parse?, if_neg hnone, hwords]

theorem parse?_numberless : parse? numberless = .error (.notWhole 10 []) := by
  have hlower : Unicode.lower numberless = numberless := by
    rw [Unicode.lower_eq_map_toLower (by simp [numberless])]
    decide
  have htrim : Text.trim numberless = numberless := by rfl
  have hattribute : attribute? numberless = none := by decide +kernel
  rw [parse?_of_word (by rfl) (by rw [htrim]; simp [numberless])]
  refine readWords_of_isColor_eq_error ?_ ?_ ?_ ?_ ?_ <;> rw [hlower]
  · simp [numberless]
  · simp [numberless]
  · simp [numberless]
  · exact hattribute
  · exact isColor_numberless

end Style
end RegistryAuth
