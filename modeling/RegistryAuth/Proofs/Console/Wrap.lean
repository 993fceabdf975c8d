import RegistryAuth.Console.Wrap
import RegistryAuth.Proofs.Console.Cells
import RegistryAuth.Proofs.Text.Cut

/-!
# What wrapping keeps

To wrap a text is to break it at blanks, and to cut what has no blank where it could break.  A
text fits (`Wrap.Fits`) if its characters fill one cell each and none of its words is longer than
a line; then nothing is cut.  All that is lost are blanks where a line ends: the lines, with
those blanks behind them, are the text (`Wrap.Broken`, `Wrap.broken_lines`).

The lines of a text that fits are narrow, and no longer than they may be (`Wrap.mem_lines`).
-/

namespace RegistryAuth

theorem Text.length_rtrim (cs : List Char) :
    (Text.rtrim cs).length = cs.length - (cs.reverse.takeWhile Text.isBlank).length := by
  have := congrArg List.length
    (List.takeWhile_append_dropWhile (p := Text.isBlank) (l := cs.reverse))
  simp only [List.length_append, List.length_reverse] at this
  rw [Text.rtrim, List.length_reverse]
  omega

theorem Text.length_rtrim_append (cs ds : List Char) :
    (Text.rtrim (cs ++ ds)).length ≤ cs.length + (Text.rtrim ds).length := by
  rw [Text.rtrim, Text.rtrim, List.reverse_append, List.dropWhile_append, List.length_reverse,
    List.length_reverse]
  split
  · have := (List.dropWhile_sublist (l := cs.reverse) Text.isBlank).length_le
    rw [List.length_reverse] at this
    omega
  · rw [List.length_append, List.length_reverse, Nat.add_comm]

namespace Wrap

variable {cs : List Char} {width : Nat}

/-- The lines are those of the text, but for blanks at their ends. -/
inductive Broken : List Char → List (List Char) → Prop
  | nil : Broken [] []
  | cons {line gap rest : List Char} {lines : List (List Char)}
      (hgap : ∀ c ∈ gap, Text.isBlank c = true) (hrest : Broken rest lines) :
      Broken (line ++ gap ++ rest) (line :: lines)

theorem Broken.append {ds : List Char} {ls ms : List (List Char)} (hcs : Broken cs ls)
    (hds : Broken ds ms) : Broken (cs ++ ds) (ls ++ ms) := by
  induction hcs with
  | nil => exact hds
  | cons hgap _ ih =>
    rw [List.append_assoc]
    exact .cons hgap ih

/-- Blanks behind a text are behind its last line. -/
theorem Broken.append_gap {ls : List (List Char)} (h : Broken cs ls) (hne : ls ≠ [])
    {blanks : List Char} (hblanks : ∀ c ∈ blanks, Text.isBlank c = true) :
    Broken (cs ++ blanks) ls := by
  induction h with
  | nil => exact absurd rfl hne
  | @cons line gap rest lines hgap hrest ih =>
    cases hrest with
    | nil =>
      rw [List.append_nil, List.append_assoc, ← List.append_nil (line ++ (gap ++ blanks))]
      refine .cons (fun c hc => ?_) .nil
      exact (List.mem_append.mp hc).elim (hgap c) (hblanks c)
    | cons hgap' hrest' =>
      rw [List.append_assoc]
      exact .cons hgap (ih (List.cons_ne_nil _ _))

/-- A line that ends a text may be empty. -/
theorem Broken.append_replicate {ls : List (List Char)} (h : Broken cs ls) (n : Nat) :
    Broken cs (ls ++ List.replicate n []) := by
  have hempty : Broken [] (List.replicate n []) := by
    induction n with
    | zero => exact .nil
    | succ n ih => exact @Broken.cons [] [] [] _ (by simp) ih
  simpa using h.append hempty

/-! ## Words -/

theorem eq_nil_of_dropWhile {p : Char → Bool} (h : ∀ c ∈ cs.dropWhile p, p c = true) :
    cs.dropWhile p = [] := by
  rw [← List.dropWhile_idempotent (p := p) cs, List.dropWhile_eq_nil_iff]
  exact h

/-- The words of a text are all of it, unless it is blank. -/
theorem wordsFrom_spec {n : Nat} (h : cs.length ≤ n) :
    (wordsFrom n cs).flatten = cs ∨ wordsFrom n cs = [] ∧ ∀ c ∈ cs, Text.isBlank c = true := by
  induction n generalizing cs with
  | zero => exact .inl (List.length_eq_zero_iff.mp (Nat.le_zero.mp h)).symm
  | succ n ih =>
    simp only [wordsFrom]
    have hcs := List.takeWhile_append_dropWhile (p := Text.isBlank) (l := cs)
    have hhead := List.head_dropWhile_not (p := Text.isBlank) (l := cs)
    generalize cs.takeWhile Text.isBlank = before at hcs ⊢
    cases hrest : cs.dropWhile Text.isBlank with
    | nil => exact .inr ⟨rfl, List.dropWhile_eq_nil_iff.mp hrest⟩
    | cons c rest =>
      have hc : (!Text.isBlank c) = true := by simpa [hrest] using hhead (by simp [hrest])
      have hword := List.takeWhile_append_dropWhile (p := fun c => !Text.isBlank c) (l := rest)
      rw [hrest] at hcs
      simp only [List.isEmpty_cons, Bool.false_eq_true, if_false, List.takeWhile_cons, hc, if_true,
        List.dropWhile_cons]
      generalize rest.takeWhile (fun c => !Text.isBlank c) = word at hword ⊢
      generalize rest.dropWhile (fun c => !Text.isBlank c) = left at hword ⊢
      have hleft := List.takeWhile_append_dropWhile (p := Text.isBlank) (l := left)
      have hnext : (wordsFrom n (left.dropWhile Text.isBlank)).flatten =
          left.dropWhile Text.isBlank := by
        have hlength := congrArg List.length hcs
        have hword' := congrArg List.length hword
        have hdrop := (List.dropWhile_sublist (l := left) Text.isBlank).length_le
        simp only [List.length_append, List.length_cons] at hlength hword'
        have hshort : (left.dropWhile Text.isBlank).length ≤ n := by omega
        rcases ih hshort with hflat | ⟨hnil, hblank⟩
        · exact hflat
        · rw [hnil, eq_nil_of_dropWhile hblank, List.flatten_nil]
      refine .inl ?_
      rw [List.flatten_cons, hnext, List.append_assoc, List.append_assoc, hleft, List.cons_append,
        hword, hcs]

theorem mem_of_mem_wordsFrom {n : Nat} {word : List Char} {c : Char}
    (hword : word ∈ wordsFrom n cs) (hc : c ∈ word) : c ∈ cs := by
  induction n generalizing cs with
  | zero => cases hword
  | succ n ih =>
    simp only [wordsFrom] at hword
    split at hword
    · cases hword
    · have hdrop : ∀ {p : Char → Bool} {l : List Char}, c ∈ l.dropWhile p → c ∈ l :=
        fun h => (List.dropWhile_sublist _).mem h
      have htake : ∀ {p : Char → Bool} {l : List Char}, c ∈ l.takeWhile p → c ∈ l :=
        fun h => (List.takeWhile_sublist _).mem h
      rcases List.mem_cons.mp hword with rfl | hword
      · simp only [List.mem_append] at hc
        rcases hc with (hc | hc) | hc
        · exact htake hc
        · exact hdrop (htake hc)
        · exact hdrop (hdrop (htake hc))
      · exact hdrop (hdrop (hdrop (ih hword)))

/-! ## Lines -/

/-- A line has room, once the blanks at its end are gone. -/
def HasRoom (width : Nat) (line : List Char) : Prop :=
  Cells.IsNarrow line ∧ (Text.rtrim line).length ≤ width

namespace Division

/-- What is true of a division whose words so far make up `cs`. -/
structure Holds (width : Nat) (cs : List Char) (d : Division) : Prop where
  text : d.lines.flatten = cs
  room : ∀ line ∈ d.lines, HasRoom width line
  cells : d.cells = d.line.length

theorem Holds.start : Holds width [] ⟨[], [], 0⟩ where
  text := rfl
  room := by
    rintro line (_ | ⟨_, ⟨⟩⟩)
    exact ⟨Cells.isNarrow_nil, Nat.zero_le _⟩
  cells := rfl

/-- To end an empty line loses nothing, so a new line takes the word behind all that is there. -/
theorem Holds.startWith {d : Division} (h : Holds width cs d) {word : List Char}
    (hword : HasRoom width word) : Holds width (cs ++ word) (d.startWith word) := by
  obtain ⟨htext, hroom, -⟩ := h
  simp only [lines, List.reverse_cons, List.flatten_append, List.flatten_cons, List.flatten_nil,
    List.append_nil, List.mem_append, List.mem_reverse, List.mem_singleton] at htext hroom
  have hfull : (d.startWith word).full.reverse.flatten = cs ∧
      ∀ line ∈ (d.startWith word).full, HasRoom width line := by
    simp only [Division.startWith, endLine]
    split
    · rename_i hempty
      rw [List.isEmpty_iff.mp hempty, List.append_nil] at htext
      exact ⟨htext, fun line hline => hroom line (.inl hline)⟩
    · refine ⟨by simpa using htext, fun line hline => hroom line ?_⟩
      exact (List.mem_cons.mp hline).symm
  refine ⟨?_, fun line hline => ?_, Cells.width_of_isNarrow hword.1⟩
  · rw [lines, List.reverse_cons, List.flatten_append, hfull.1]
    exact congrArg (cs ++ ·) (List.append_nil word)
  · rcases List.mem_cons.mp (List.mem_reverse.mp hline) with rfl | hline
    · exact hword
    · exact hfull.2 line hline

/-- A word either still has room behind the line begun, or begins a line of its own. -/
theorem Holds.addWord {d : Division} (h : Holds width cs d) {word : List Char}
    (hword : HasRoom width word) (overflow : Overflow) :
    Holds width (cs ++ word) (d.addWord width overflow word) := by
  have hsize : Cells.width (Text.rtrim word) = (Text.rtrim word).length :=
    Cells.width_of_isNarrow (hword.1.of_sublist
      (List.reverse_sublist.mp (by simpa [Text.rtrim] using List.dropWhile_sublist _)))
  simp only [Division.addWord, hsize, if_neg (Nat.not_lt.mpr hword.2)]
  split
  · rename_i hfits
    obtain ⟨htext, hroom, hcells⟩ := h
    simp only [lines, List.reverse_cons, List.mem_append, List.mem_singleton] at htext hroom
    have hline := (hroom d.line (.inr rfl)).1
    refine ⟨?_, ?_, ?_⟩
    · simpa [lines, ← List.append_assoc] using congrArg (· ++ word) htext
    · simp only [lines, List.reverse_cons, List.mem_append, List.mem_singleton]
      rintro line (hmem | rfl)
      · exact hroom line (.inl hmem)
      · have := Text.length_rtrim_append d.line word
        exact ⟨Cells.isNarrow_append.mpr ⟨hline, hword.1⟩, by omega⟩
    · rw [Cells.width_of_isNarrow hword.1, hcells, List.length_append]
  · exact h.startWith hword

theorem Holds.foldl {words : List (List Char)} {d : Division} (h : Holds width cs d)
    (hwords : ∀ word ∈ words, HasRoom width word) (overflow : Overflow) :
    Holds width (cs ++ words.flatten) (words.foldl (Division.addWord width overflow) d) := by
  induction words generalizing cs d with
  | nil => simpa using h
  | cons word words ih =>
    obtain ⟨hword, hwords⟩ := List.forall_mem_cons.mp hwords
    rw [List.flatten_cons, ← List.append_assoc]
    exact ih (h.addWord hword overflow) hwords

end Division

/-- A line that is divided where all its words have room is cut nowhere. -/
theorem divide_spec (h : Cells.IsNarrow cs) (hwords : ∀ word ∈ words cs, HasRoom width word)
    (overflow : Overflow) :
    (∀ line ∈ divide width overflow cs, HasRoom width line) ∧
      (divide width overflow cs).flatten = cs := by
  have hspec := wordsFrom_spec (le_refl cs.length)
  rw [← words] at hspec
  rw [divide]
  split
  · rename_i hnone
    -- There are no words, so the one line is blank.
    have hrtrim : Text.rtrim cs = [] := by
      rw [Text.rtrim, List.reverse_eq_nil_iff, List.dropWhile_eq_nil_iff]
      rcases hspec with hflat | ⟨-, hblank⟩
      · rw [hnone] at hflat
        simp [← hflat]
      · simpa using hblank
    refine ⟨fun line hline => ?_, by simp⟩
    obtain rfl := List.mem_singleton.mp hline
    exact ⟨h, by rw [hrtrim]; exact Nat.zero_le _⟩
  · rename_i hsome
    have hdivision := Division.Holds.start.foldl hwords overflow
    refine ⟨hdivision.room, ?_⟩
    rw [hdivision.text, List.nil_append]
    exact hspec.resolve_right fun hnone => hsome hnone.1

theorem divide_ne_nil (width : Nat) (overflow : Overflow) (cs : List Char) :
    divide width overflow cs ≠ [] := by
  rw [divide]
  split
  · exact List.cons_ne_nil _ _
  · simp [Division.lines]

/-- The blanks that are too many are all there is to drop. -/
theorem dropExcess_spec {line : List Char} (h : HasRoom width line) :
    (dropExcess width line).length ≤ width ∧ ∃ gap, line = dropExcess width line ++ gap ∧
      ∀ c ∈ gap, Text.isBlank c = true := by
  obtain ⟨-, hrtrim⟩ := h
  rw [Text.length_rtrim] at hrtrim
  have hlength : (line.reverse.takeWhile Text.isBlank).length ≤ line.length := by
    simpa using (List.takeWhile_sublist (l := line.reverse) Text.isBlank).length_le
  simp only [dropExcess]
  generalize hkept : line.length - min (line.reverse.takeWhile Text.isBlank).length
    (line.length - width) = kept
  refine ⟨by rw [List.length_take]; omega, line.drop kept, (List.take_append_drop ..).symm,
    fun c hc => ?_⟩
  -- What is dropped stands among the blanks at the end.
  have hmem : c ∈ line.reverse.take (line.length - kept) := by
    rw [List.take_reverse, List.mem_reverse]
    rwa [show line.length - (line.length - kept) = kept by omega]
  have htake : line.reverse.take (line.length - kept) <+:
      line.reverse.takeWhile Text.isBlank := by
    refine List.prefix_of_prefix_length_le (List.take_prefix _ _) (List.takeWhile_prefix _) ?_
    rw [List.length_take]
    omega
  exact List.mem_takeWhile_imp (htake.subset hmem)

theorem broken_map_dropExcess {lines : List (List Char)} (h : ∀ line ∈ lines, HasRoom width line) :
    Broken lines.flatten (lines.map (dropExcess width)) := by
  induction lines with
  | nil => exact .nil
  | cons line lines ih =>
    obtain ⟨hline, hlines⟩ := List.forall_mem_cons.mp h
    obtain ⟨-, gap, hgap, hblank⟩ := dropExcess_spec hline
    rw [List.flatten_cons, List.map_cons]
    conv => enter [1, 1]; rw [hgap]
    exact .cons hblank (ih hlines)

/-- A text whose characters fill one cell each, and whose words are no longer than a line. -/
def Fits (width : Nat) (cs : List Char) : Prop :=
  ∀ line ∈ Text.splitOn '\n' cs, Cells.IsNarrow line ∧
    ∀ word ∈ words line, (Text.rtrim word).length ≤ width

theorem Fits.mono {n : Nat} (h : Fits width cs) (hle : width ≤ n) : Fits n cs :=
  fun line hline => ⟨(h line hline).1, fun word hword => ((h line hline).2 word hword).trans hle⟩

theorem Fits.min {n : Nat} (h : Fits width cs) (h' : Fits n cs) : Fits (min width n) cs :=
  fun line hline => ⟨(h line hline).1, fun word hword =>
    le_min ((h line hline).2 word hword) ((h' line hline).2 word hword)⟩

theorem length_rtrim_le_of_mem_words {word : List Char} (hword : word ∈ words cs) :
    (Text.rtrim word).length ≤ cs.length := by
  have hrtrim := Text.length_rtrim word
  have hmem : word.length ≤ (words cs).flatten.length :=
    (List.sublist_flatten_of_mem hword).length_le
  rcases wordsFrom_spec (le_refl cs.length) with hflat | ⟨hnil, -⟩
  · rw [words, hflat] at hmem
    omega
  · rw [words, hnil] at hword
    cases hword

theorem Fits.hasRoom {line : List Char} (h : Fits width cs) (hline : line ∈ Text.splitOn '\n' cs) :
    ∀ word ∈ words line, HasRoom width word := fun word hword =>
  ⟨fun _ hc => (h line hline).1 _ (mem_of_mem_wordsFrom hword hc), (h line hline).2 word hword⟩

theorem tab_not_mem_of_isNarrow (h : Cells.IsNarrow cs) : '\t' ∉ cs := fun hmem =>
  absurd (h '\t' hmem).1 (by rw [Unicode.cellWidth, if_pos (by rfl)]; exact zero_ne_one)

theorem lines_spec {overflow : Overflow} {line : List Char} (hnarrow : Cells.IsNarrow line)
    (hwords : ∀ word ∈ words line, HasRoom width word) :
    (divide width overflow (if line.contains '\t' then expandTabs line else line)).map
        (fun line => truncate width overflow (dropExcess width line)) =
      (divide width overflow line).map (dropExcess width) := by
  have htab : line.contains '\t' = false := by
    rw [Bool.eq_false_iff, ne_eq, List.contains_iff_mem]
    exact tab_not_mem_of_isNarrow hnarrow
  rw [htab, if_neg Bool.false_ne_true]
  refine List.map_congr_left fun piece hpiece => ?_
  have hroom := (divide_spec hnarrow hwords overflow).1 piece hpiece
  have hnarrow' : Cells.IsNarrow (dropExcess width piece) :=
    hroom.1.of_sublist (List.take_sublist _ _)
  rw [truncate.eq_def, if_pos]
  rw [Cells.width_of_isNarrow hnarrow']
  exact (dropExcess_spec hroom).1

/-- The lines of a text that fits are narrow and have room. -/
theorem mem_lines {overflow : Overflow} (h : Fits width cs) {line : List Char}
    (hline : line ∈ lines width overflow cs) : Cells.IsNarrow line ∧ line.length ≤ width := by
  obtain ⟨part, hpart, hline⟩ := List.mem_flatMap.mp hline
  rw [lines_spec (h part hpart).1 (h.hasRoom hpart)] at hline
  obtain ⟨piece, hpiece, rfl⟩ := List.mem_map.mp hline
  have hroom := (divide_spec (h part hpart).1 (h.hasRoom hpart) overflow).1 piece hpiece
  exact ⟨hroom.1.of_sublist (List.take_sublist _ _), (dropExcess_spec hroom).1⟩

/-- The ends of lines are lost too. -/
theorem broken_intercalate {f : List Char → List (List Char)} {parts : List (List Char)}
    (h : ∀ part ∈ parts, Broken part (f part) ∧ f part ≠ []) :
    Broken (List.intercalate ['\n'] parts) (parts.flatMap f) := by
  induction parts with
  | nil => exact .nil
  | cons part parts ih =>
    obtain ⟨⟨hpart, hne⟩, hparts⟩ := List.forall_mem_cons.mp h
    cases parts with
    | nil => simpa [List.intercalate] using hpart
    | cons next parts =>
      rw [List.intercalate_cons_cons, List.flatMap_cons]
      have hend : ∀ c ∈ ['\n'], Text.isBlank c = true := by
        intro c hc
        rw [List.mem_singleton.mp hc]
        rfl
      exact (hpart.append_gap hne hend).append (ih hparts)

/-- A text that fits is broken into its lines. -/
theorem broken_lines {overflow : Overflow} (h : Fits width cs) :
    Broken cs (lines width overflow cs) := by
  conv => enter [1]; rw [← Text.intercalate_splitOn '\n' cs]
  refine broken_intercalate fun part hpart => ?_
  obtain ⟨hnarrow, -⟩ := h part hpart
  obtain ⟨hroom, htext⟩ := divide_spec hnarrow (h.hasRoom hpart) overflow
  rw [lines_spec hnarrow (h.hasRoom hpart)]
  refine ⟨?_, ?_⟩
  · have hbroken := broken_map_dropExcess hroom
    rwa [htext] at hbroken
  · rw [ne_eq, List.map_eq_nil_iff]
    exact divide_ne_nil _ _ _

/-- A word that has room, however wide its characters are, is the one line of a text. -/
theorem lines_of_word {overflow : Overflow} (hne : cs ≠ [])
    (hword : ∀ c ∈ cs, Text.isBlank c = false) (h : 2 * cs.length ≤ width) :
    lines width overflow cs = [cs] := by
  have hwidth : Cells.width cs ≤ width := (Cells.widthAfter_le cs none).trans h
  have hnot : ∀ d, Text.isBlank d = true → d ∉ cs := fun d hd hmem => by
    rw [hword d hmem] at hd
    cases hd
  have htab : cs.contains '\t' = false := by
    rw [Bool.eq_false_iff, ne_eq, List.contains_iff_mem]
    exact hnot '\t' rfl
  have hbefore : cs.takeWhile Text.isBlank = [] ∧ cs.dropWhile Text.isBlank = cs := by
    obtain ⟨c, rest, rfl⟩ := List.exists_cons_of_ne_nil hne
    have hc := hword c List.mem_cons_self
    exact ⟨List.takeWhile_cons_of_neg (by simp [hc]), List.dropWhile_cons_of_neg (by simp [hc])⟩
  have hall : cs.takeWhile (fun c => !Text.isBlank c) = cs ∧
      cs.dropWhile (fun c => !Text.isBlank c) = [] := by
    rw [List.takeWhile_eq_self_iff, List.dropWhile_eq_nil_iff, and_self]
    intro c hc
    simp [hword c hc]
  have hwords : words cs = [cs] := by
    obtain ⟨n, hn⟩ := Nat.exists_eq_succ_of_ne_zero (List.length_pos_of_ne_nil hne).ne'
    rw [words, hn, wordsFrom.eq_def]
    simp [hbefore, hall, hne]
    cases n <;> simp [wordsFrom]
  have hrtrim : Cells.width (Text.rtrim cs) ≤ width := by
    have := Text.length_rtrim cs
    have := Cells.widthAfter_le (Text.rtrim cs) none
    rw [Cells.width]
    omega
  have hdivide : divide width overflow cs = [cs] := by
    simp only [divide, hwords, List.foldl_cons, List.foldl_nil, Division.addWord, Nat.add_zero,
      if_pos hrtrim, Division.lines]
    rfl
  have hlength : cs.length - width = 0 := by omega
  rw [lines, Text.splitOn_eq_singleton (hnot '\n' rfl), List.flatMap_cons, htab,
    if_neg Bool.false_ne_true, hdivide, List.map_singleton, dropExcess, hlength, Nat.min_zero,
    Nat.sub_zero, List.take_length, truncate.eq_def, if_pos hwidth]
  rfl

end Wrap
end RegistryAuth
