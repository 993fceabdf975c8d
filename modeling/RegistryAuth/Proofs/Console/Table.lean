import RegistryAuth.Proofs.Console.Columns
import RegistryAuth.Proofs.Console.Wrap

/-!
# What a table shows

A line of a row is a frame around one part for each column (`Table.framed`), and the lines of a
row are a grid of such parts (`Table.rowLines_eq`).  A cell settles in a column if its lines have
room there and show all of it (`Table.Settles`), as a text that fits does (`Table.settles_of_fits`).

Where all cells of a row settle, each of its lines fills just the cells of the table, so that a
frame around the table cuts nothing off, and each column of the row shows its cell
(`Panel.showsRow`).
-/

namespace RegistryAuth

/-! ## Lines of a text -/

namespace Column

variable {cs : List Char}

theorem splitWhere_isLineEnd (h : ∀ c ∈ cs, isLineEnd c = true → c = '\n') :
    Text.splitWhere isLineEnd cs = Text.splitOn '\n' cs := by
  induction cs with
  | nil => rfl
  | cons c cs ih =>
    obtain ⟨hc, hcs⟩ := List.forall_mem_cons.mp h
    rw [Text.splitWhere, Text.splitOn, ih hcs]
    refine if_congr ⟨hc, ?_⟩ rfl rfl
    rintro rfl
    rfl

/-- The width of a text of one line in ASCII is its length. -/
theorem textWidth_of_ascii (h : ∀ c ∈ cs, 32 ≤ c.toNat ∧ c.toNat < 127) :
    textWidth cs = cs.length := by
  have hends : ∀ c ∈ cs, isLineEnd c = false := by
    intro c hc
    have := h c hc
    simp only [isLineEnd, Bool.or_eq_false_iff, Bool.and_eq_false_iff, decide_eq_false_iff_not]
    omega
  have hnewline : '\n' ∉ cs := fun hmem => absurd (hends '\n' hmem) (by decide)
  rw [textWidth, splitWhere_isLineEnd fun c hc => by simp [hends c hc],
    Text.splitOn_eq_singleton hnewline, List.map_singleton,
    Cells.width_of_isNarrow (Cells.isNarrow_of_ascii h)]
  exact Nat.zero_max _

/-- A text fits into a column that is as wide as its widest line. -/
theorem fits_textWidth (hends : ∀ c ∈ cs, isLineEnd c = true → c = '\n')
    (hnarrow : ∀ line ∈ Text.splitOn '\n' cs, Cells.IsNarrow line) :
    Wrap.Fits (textWidth cs) cs := by
  intro line hline
  refine ⟨hnarrow line hline, fun word hword => ?_⟩
  refine (Wrap.length_rtrim_le_of_mem_words hword).trans ?_
  rw [← Cells.width_of_isNarrow (hnarrow line hline), textWidth, splitWhere_isLineEnd hends]
  exact le_foldl_max (List.mem_map_of_mem hline)

end Column

namespace Table

variable {ws : List Nat} {cells parts : List (List Char)} {bar : Char} {w : Nat}
  {cell line : List Char}

/-! ## Cells -/

/-- The lines of the cell have room beside its blanks, and show all of it. -/
structure Settles (w : Nat) (cell : List Char) : Prop where
  wide : Column.padding < w
  room : ∀ line ∈ Wrap.lines (w - Column.padding) .ellipsis cell,
    Cells.joiner ∉ line ∧ Cells.width line ≤ w - Column.padding
  shown : Wrap.Broken cell (Wrap.lines (w - Column.padding) .ellipsis cell)

/-- A part of a line that fills its column. -/
structure Filled (w : Nat) (part : List Char) : Prop where
  front : part.head? = some ' '
  joiner : Cells.joiner ∉ part
  width : Cells.width part = w

theorem filled_blank (h : 0 < w) : Filled w (List.replicate w ' ') where
  front := by obtain ⟨n, rfl⟩ := Nat.exists_eq_add_of_lt h; simp [List.replicate_succ]
  joiner := (Cells.isNarrow_replicate_blank w).joiner_not_mem
  width := by
    rw [Cells.width_of_isNarrow (Cells.isNarrow_replicate_blank w), List.length_replicate]

/-- A line of a cell, with its blanks. -/
def padded (w : Nat) (line : List Char) : List Char :=
  ' ' :: Cells.fit (w - Column.padding) line ++ [' ']

theorem cellLines_eq (h : Column.padding < w) (cell : List Char) :
    cellLines w cell =
      (Wrap.lines (w - Column.padding) .ellipsis cell).map fun line =>
        Cells.fit w (padded w line) := by
  simp only [cellLines]
  rw [if_neg (by omega)]
  rfl

theorem filled_padded (h : Column.padding < w) (hjoiner : Cells.joiner ∉ line)
    (hline : Cells.width line ≤ w - Column.padding) : Filled w (padded w line) := by
  have hfit := Cells.joiner_not_mem_fit hjoiner hline
  have hblank := Cells.isNarrow_blank
  refine ⟨rfl, ?_, ?_⟩
  · rw [padded, List.cons_append, List.mem_cons, List.mem_append, List.mem_singleton]
    rintro (hmem | hmem | hmem)
    · exact absurd hmem (by decide)
    · exact hfit hmem
    · exact absurd hmem (by decide)
  · rw [padded, List.cons_append, Cells.width_blank_cons, Cells.width_append hfit hblank.isFresh,
      Cells.width_fit hjoiner hline, Cells.width_of_isNarrow hblank]
    simp only [Column.padding, List.length_singleton] at *
    omega

/-- The part of the `i`th line of a row that belongs to a cell. -/
def part (i w : Nat) (cell : List Char) : List Char :=
  (cellLines w cell).getD i (List.replicate w ' ')

theorem Settles.cellLines_eq (h : Settles w cell) :
    cellLines w cell =
      (Wrap.lines (w - Column.padding) .ellipsis cell).map (padded w) := by
  rw [Table.cellLines_eq h.wide]
  refine List.map_congr_left fun line hline => Cells.fit_of_width_eq ?_
  exact (filled_padded h.wide (h.room line hline).1 (h.room line hline).2).width

theorem Settles.filled_part (h : Settles w cell) (i : Nat) : Filled w (part i w cell) := by
  rw [part, h.cellLines_eq, List.getD_eq_getElem?_getD, List.getElem?_map]
  cases hline : (Wrap.lines (w - Column.padding) .ellipsis cell)[i]? with
  | none => exact filled_blank (Nat.zero_lt_of_lt h.wide)
  | some line =>
    have hroom := h.room line (List.mem_of_getElem? hline)
    exact filled_padded h.wide hroom.1 hroom.2

/-- The parts are the lines of a text, each of them between blanks. -/
def Show (parts : List (List Char)) (text : List Char) : Prop :=
  ∃ lines, Wrap.Broken text lines ∧
    List.Forall₂ (fun part line => ∃ n, part = ' ' :: line ++ List.replicate n ' ') parts lines

theorem map_range_getD {α : Type} (l : List α) (d : α) {n : Nat} (h : l.length ≤ n) :
    (List.range n).map (fun i => l.getD i d) = l ++ List.replicate (n - l.length) d := by
  induction l generalizing n with
  | nil => simp [List.map_const']
  | cons a l ih =>
    obtain ⟨m, rfl⟩ := Nat.exists_eq_add_of_le' (Nat.zero_lt_of_lt (Nat.lt_of_succ_le h))
    rw [List.length_cons, Nat.add_sub_add_right, List.cons_append,
      ← ih (Nat.le_of_succ_le_succ h), List.range_succ_eq_map, List.map_cons, List.map_map]
    rfl

/-- The parts that belong to a cell show it, and those below its last line are blank. -/
theorem Settles.show_parts (h : Settles w cell) {height : Nat}
    (hheight : (cellLines w cell).length ≤ height) :
    Show ((List.range height).map fun i => part i w cell) cell := by
  have hwide := h.wide
  refine ⟨_, h.shown.append_replicate (height - (cellLines w cell).length), ?_⟩
  simp only [part]
  rw [map_range_getD _ _ hheight, h.cellLines_eq]
  refine List.rel_append ?_ ?_
  · rw [List.forall₂_map_left_iff, List.forall₂_same]
    intro line hline
    rw [padded, Cells.fit_of_le (h.room line hline).2]
    refine ⟨w - Column.padding - Cells.width line + 1, ?_⟩
    rw [List.replicate_succ', List.cons_append, List.cons_append, List.append_assoc]
  · have hblank : List.replicate w ' ' = ' ' :: [] ++ List.replicate (w - 1) ' ' := by
      rw [List.singleton_append, ← List.replicate_succ, Nat.sub_add_cancel (by omega)]
    generalize height - _ = rows
    induction rows with
    | zero => exact .nil
    | succ rows ih => exact .cons ⟨w - 1, hblank⟩ ih

/-- A text that fits settles. -/
theorem settles_of_fits (hwide : Column.padding < w) (h : Wrap.Fits (w - Column.padding) cell) :
    Settles w cell where
  wide := hwide
  room line hline := by
    obtain ⟨hnarrow, hlength⟩ := Wrap.mem_lines h hline
    rw [Cells.width_of_isNarrow hnarrow]
    exact ⟨hnarrow.joiner_not_mem, hlength⟩
  shown := Wrap.broken_lines h

/-- A word that has room, however wide its characters are, settles. -/
theorem settles_of_word (hne : cell ≠ [])
    (hword : ∀ c ∈ cell, Text.isBlank c = false ∧ c ≠ Cells.joiner)
    (h : 2 * cell.length + Column.padding ≤ w) : Settles w cell := by
  have hroom : 2 * cell.length ≤ w - Column.padding := Nat.le_sub_of_add_le h
  have hlines : Wrap.lines (w - Column.padding) .ellipsis cell = [cell] :=
    Wrap.lines_of_word hne (fun c hc => (hword c hc).1) hroom
  refine ⟨?_, fun line hline => ?_, ?_⟩
  · have := List.length_pos_of_ne_nil hne
    omega
  · rw [hlines, List.mem_singleton] at hline
    rw [hline]
    exact ⟨fun hmem => (hword _ hmem).2 rfl, (Cells.widthAfter_le cell none).trans hroom⟩
  · rw [hlines]
    simpa using @Wrap.Broken.cons cell [] [] [] (by simp) .nil

/-! ## Rows -/

/-- A line through a row: its parts, with `bar` between and around them. -/
def framed (bar : Char) (parts : List (List Char)) : List Char :=
  bar :: List.intercalate [bar] parts ++ [bar]

/-- The number of lines of a row. -/
def rowHeight (ws : List Nat) (cells : List (List Char)) : Nat :=
  ((ws.zipWith (fun w cell => (w, cellLines w cell)) cells).map
    fun block => block.2.length).foldl max 1

/-- The parts of the lines of a row. -/
def rowGrid (ws : List Nat) (cells : List (List Char)) : List (List (List Char)) :=
  (List.range (rowHeight ws cells)).map fun i => ws.zipWith (part i) cells

theorem rowLines_eq (bar : Char) (ws : List Nat) (cells : List (List Char)) :
    rowLines bar ws cells = (rowGrid ws cells).map (framed bar) := by
  simp only [rowLines, rowGrid, rowHeight, List.map_map]
  refine List.map_congr_left fun i _ => ?_
  rw [List.map_zipWith]
  rfl

theorem framed_eq (h : parts ≠ []) :
    framed bar parts = parts.flatMap (bar :: ·) ++ [bar] := by
  cases parts with
  | nil => exact absurd rfl h
  | cons part parts =>
    rw [framed, List.flatMap_cons, List.cons_append, List.cons_append, List.cons_append]
    congr 2
    induction parts generalizing part with
    | nil => simp [List.intercalate]
    | cons next parts ih =>
      rw [List.intercalate_cons_cons, ih next (List.cons_ne_nil _ _), List.flatMap_cons]
      simp

/-- A line whose parts fill their columns fills the table. -/
theorem width_framed (hbar : Cells.IsNarrow [bar]) (hparts : List.Forall₂ Filled ws parts)
    (hne : ws ≠ []) :
    Cells.joiner ∉ framed bar parts ∧
      Cells.width (framed bar parts) = ws.sum + (ws.length + 1) := by
  have hne' : parts ≠ [] := by
    rintro rfl
    exact hne (List.forall₂_nil_right_iff.mp hparts)
  rw [framed_eq hne']
  clear hne hne'
  induction hparts with
  | nil => exact ⟨hbar.joiner_not_mem, Cells.width_of_isNarrow hbar⟩
  | @cons w part ws parts hpart hparts ih =>
    obtain ⟨hfront, hjoiner, hwidth⟩ := hpart
    obtain ⟨ihjoiner, ihwidth⟩ := ih
    obtain ⟨front, rfl⟩ : ∃ front, part = ' ' :: front := by
      cases part with
      | nil => cases hfront
      | cons c front => exact ⟨front, by rw [Option.some.inj hfront]⟩
    have hrest : Cells.IsFresh (parts.flatMap (bar :: ·) ++ [bar]) := by
      cases parts with
      | nil => exact Cells.isFresh_cons hbar []
      | cons part parts => exact Cells.isFresh_cons hbar _
    have hfresh : Cells.IsFresh ((' ' :: front) ++ (parts.flatMap (bar :: ·) ++ [bar])) :=
      Cells.isFresh_cons Cells.isNarrow_blank _
    rw [List.flatMap_cons, List.cons_append, List.cons_append, List.append_assoc,
      Cells.width_cons_of_isFresh hbar hfresh, Cells.width_append hjoiner hrest, hwidth, ihwidth,
      List.sum_cons, List.length_cons, List.mem_cons, List.mem_append]
    refine ⟨?_, by omega⟩
    rintro (hmem | hmem | hmem)
    · exact hbar.joiner_not_mem (by simp [hmem])
    · exact hjoiner hmem
    · exact ihjoiner hmem

theorem filled_of_mem_rowGrid (hcells : List.Forall₂ Settles ws cells)
    (hparts : parts ∈ rowGrid ws cells) : List.Forall₂ Filled ws parts := by
  obtain ⟨i, -, rfl⟩ := List.mem_map.mp hparts
  clear hparts
  induction hcells with
  | nil => exact .nil
  | cons hcell _ ih => exact .cons (hcell.filled_part i) ih

/-- Each column of a row shows its cell. -/
theorem show_rowGrid (hcells : List.Forall₂ Settles ws cells) {j : Nat}
    (hj : cells[j]? = some cell) :
    Show ((rowGrid ws cells).map fun parts => parts.getD j []) cell := by
  obtain ⟨hlt, hcell⟩ := List.getElem?_eq_some_iff.mp hj
  have hlength := hcells.length_eq
  have hsettles : Settles ws[j] cell := by
    have := hcells.get (i := j) (by omega) hlt
    simpa [hcell] using this
  have hblock : (cellLines ws[j] cell).length ≤ rowHeight ws cells := by
    refine (foldl_max_le_iff.mp le_rfl).2 _
      (List.mem_map.mpr ⟨(ws[j], cellLines ws[j] cell), ?_, rfl⟩)
    rw [List.mem_iff_getElem?]
    exact ⟨j, by rw [List.getElem?_zipWith, hj, List.getElem?_eq_getElem (by omega)]⟩
  have hcolumn : (rowGrid ws cells).map (fun parts => parts.getD j []) =
      (List.range (rowHeight ws cells)).map fun i => part i ws[j] cell := by
    rw [rowGrid, List.map_map]
    refine List.map_congr_left fun i _ => ?_
    rw [Function.comp_apply, List.getD_eq_getElem?_getD, List.getElem?_zipWith, hj,
      List.getElem?_eq_getElem (by omega)]
    rfl
  rw [hcolumn]
  exact hsettles.show_parts hblock

end Table
end RegistryAuth
