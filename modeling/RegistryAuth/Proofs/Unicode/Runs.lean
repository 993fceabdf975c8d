import Mathlib
import RegistryAuth.Unicode.Runs

/-!
# What a table says

A table of runs is read word by word, each run from the end of the last one (`Runs.fromWords`).
A search finds a run of the table that holds the code point (`Runs.mem_of_find?_eq_some`), so
what is true of all runs is true of what is found (`Runs.AllWords.of_find?`), and what all runs
avoid is not held (`Runs.AllWords.holds_eq_false`).

Where each of hundreds of runs is to be compared with all runs of a table, they are compared all at
once: the code points of runs are the bits of one number (`Runs.bits`).
-/

namespace RegistryAuth
namespace Unicode

namespace Runs

/-- What is found stands in the table and holds the code point. -/
theorem mem_of_search_eq_some {runs : Runs} {n lo hi : Nat} {run : Run}
    (h : runs.search n lo hi = some run) : run ∈ runs ∧ run.first ≤ n ∧ n ≤ run.last := by
  fun_induction Runs.search runs n lo hi with
  | case1 lo hi hlt mid hget => cases h
  | case2 lo hi hlt mid run' hget hbelow ih => exact ih h
  | case3 lo hi hlt mid run' hget hbelow habove ih => exact ih h
  | case4 lo hi hlt mid run' hget hbelow habove =>
    obtain rfl : run' = run := Option.some.inj h
    exact ⟨Array.mem_of_getElem? hget, by omega, by omega⟩
  | case5 lo hi hlt => cases h

theorem mem_of_find?_eq_some {runs : Runs} {n : Nat} {run : Run} (h : runs.find? n = some run) :
    run ∈ runs ∧ run.first ≤ n ∧ n ≤ run.last :=
  mem_of_search_eq_some h

/-- The words of a table; `word` is the one begun, in reverse.  They come one by one from the
front, so that a long table can be gone through. -/
def wordsFrom (word : List Char) : List Char → List (List Char)
  | [] => if word.isEmpty then [] else [word.reverse]
  | c :: cs =>
    if c = ' ' ∨ c = '\n' then
      if word.isEmpty then wordsFrom [] cs else word.reverse :: wordsFrom [] cs
    else wordsFrom (c :: word) cs

theorem wordsFrom_eq (word cs : List Char) :
    ∃ part parts, Text.splitOn ' ' (cs.map fun c => if c = '\n' then ' ' else c) = part :: parts ∧
      wordsFrom word cs = ((word.reverse ++ part) :: parts).filter fun w => !w.isEmpty := by
  induction cs generalizing word with
  | nil => exact ⟨[], [], rfl, by cases word <;> simp [wordsFrom]⟩
  | cons c cs ih =>
    by_cases hc : c = ' ' ∨ c = '\n'
    · obtain ⟨part, parts, hsplit, hwords⟩ := ih []
      have hblank : (if c = '\n' then ' ' else c) = ' ' := by
        rcases hc with rfl | rfl <;> rfl
      refine ⟨[], part :: parts, ?_, ?_⟩
      · rw [List.map_cons, hblank, Text.splitOn, if_pos rfl, hsplit]
      · rw [wordsFrom, if_pos hc, hwords]
        cases word <;> simp
    · obtain ⟨part, parts, hsplit, hwords⟩ := ih (c :: word)
      obtain ⟨hblank, hnewline⟩ := not_or.mp hc
      refine ⟨c :: part, parts, ?_, ?_⟩
      · rw [List.map_cons, if_neg hnewline, Text.splitOn, if_neg hblank, hsplit]
      · rw [wordsFrom, if_neg hc, hwords, List.reverse_cons, List.append_assoc]
        rfl

/-- The runs that words stand for, where the last run has ended at `lastEnd`. -/
def fromWords (lastEnd : Nat) : List (List Char) → List Run
  | [] => []
  | word :: words => Run.ofWord lastEnd word :: fromWords (Run.ofWord lastEnd word).last words

theorem foldl_words (words : List (List Char)) (lastEnd : Nat) (runs : Runs) :
    (words.foldl (fun (st : Nat × Runs) word =>
      (((Run.ofWord st.1 word).last, st.2.push (Run.ofWord st.1 word)) : Nat × Runs))
        (lastEnd, runs)).2.toList = runs.toList ++ fromWords lastEnd words := by
  induction words generalizing lastEnd runs with
  | nil => simp [fromWords]
  | cons word words ih => simp [fromWords, ih]

/-- A table read from a text has the runs of its words. -/
theorem toList_ofText {text : String} {cs : List Char} (h : text = String.ofList cs) :
    (Runs.ofText text).toList = fromWords 0 (wordsFrom [] cs) := by
  obtain ⟨part, parts, hsplit, hwords⟩ := wordsFrom_eq [] cs
  rw [ofText, h, String.toList_ofList, hsplit, hwords]
  exact foldl_words _ 0 #[]

/-- All words of a table, written as the text that the table is read from, satisfy `P`.  The
text is given by its characters, since to take it apart costs more than to go through it. -/
def AllWords (runs : Runs) (P : Run → Bool) : Prop :=
  ∃ cs text, runs = Runs.ofText text ∧ text = String.ofList cs ∧
    (fromWords 0 (wordsFrom [] cs)).all P = true

/-- What all words of a table say is true of every run that is found. -/
theorem AllWords.of_find? {runs : Runs} {P : Run → Bool} (h : runs.AllWords P) {n : Nat}
    {run : Run} (hfind : runs.find? n = some run) :
    P run = true ∧ run.first ≤ n ∧ n ≤ run.last := by
  obtain ⟨cs, text, hruns, htext, hall⟩ := h
  obtain ⟨hmem, hbounds⟩ := mem_of_find?_eq_some hfind
  rw [hruns, ← Array.mem_toList_iff, toList_ofText htext] at hmem
  exact ⟨List.all_eq_true.mp hall run hmem, hbounds⟩

end Runs

/-- The run lies beside each of some ranges, which are given by their ends. -/
def Run.avoids (ranges : List (Nat × Nat)) (run : Run) : Bool :=
  ranges.all fun (first, last) => decide (run.last < first) || decide (last < run.first)

namespace Runs

/-- What all words of a table avoid is not held by the table. -/
theorem AllWords.holds_eq_false {runs : Runs} {ranges : List (Nat × Nat)}
    (h : runs.AllWords (Run.avoids ranges)) {c : Char}
    (hc : ∃ range ∈ ranges, range.1 ≤ c.toNat ∧ c.toNat ≤ range.2) : runs.holds c = false := by
  rw [holds, Option.isSome_eq_false_iff, Option.isNone_iff_eq_none,
    Option.eq_none_iff_forall_ne_some]
  intro run hfind
  obtain ⟨havoids, hbounds⟩ := h.of_find? hfind
  obtain ⟨range, hrange, hc⟩ := hc
  have hbeside := List.all_eq_true.mp havoids range hrange
  simp only [Bool.or_eq_true, decide_eq_true_eq] at hbeside
  omega

/-- The runs that the words of a table stand for, taken together, satisfy `P`. -/
def HasWords (runs : Runs) (P : List Run → Prop) : Prop :=
  ∃ cs text, runs = Runs.ofText text ∧ text = String.ofList cs ∧ P (fromWords 0 (wordsFrom [] cs))

theorem HasWords.toList {runs : Runs} {P : List Run → Prop} (h : runs.HasWords P) :
    P runs.toList := by
  obtain ⟨cs, text, rfl, htext, hP⟩ := h
  rwa [toList_ofText htext]

/-- The code points of some runs as the bits of a number; `ends` says where each begins and
ends. -/
def bits (ends : Run → Nat × Nat) (runs : List Run) : Nat :=
  runs.foldr (fun run bits =>
    ((1 <<< ((ends run).2 + 1 - (ends run).1) - 1) <<< (ends run).1) ||| bits) 0

theorem testBit_bits {ends : Run → Nat × Nat} {runs : List Run} {n : Nat} :
    (bits ends runs).testBit n = true ↔ ∃ run ∈ runs, (ends run).1 ≤ n ∧ n ≤ (ends run).2 := by
  induction runs with
  | nil => simp [bits]
  | cons run runs ih =>
    rw [bits, List.foldr_cons, ← bits, Nat.testBit_or, Bool.or_eq_true, ih]
    simp only [List.mem_cons, exists_eq_or_imp]
    refine or_congr_left ?_
    rw [Nat.testBit_shiftLeft, Nat.one_shiftLeft, Nat.testBit_two_pow_sub_one, Bool.and_eq_true,
      decide_eq_true_iff, decide_eq_true_iff]
    omega

end Runs

end Unicode
end RegistryAuth
