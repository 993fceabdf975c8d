import RegistryAuth.Proofs.Console.Table

/-!
# What a table in a frame shows

The frame leaves the lines of a table as they are (`Panel.crop_frame`), and the table the room
that its columns need, except for the last one.  So a row is shown if its cells settle in the
widths that the columns want, and the last one in what is left (`Panel.showsRow`).
-/

namespace RegistryAuth
namespace Panel

variable {others : List Column} {last : Column} {width : Nat}

/-- A line of a table between the edges of a frame. -/
def framedLine (blanks : Nat) (line : List Char) : List Char :=
  '│' :: ' ' :: line ++ List.replicate blanks ' ' ++ [' ', '│']

/-- Among the lines are those of a row, with the cells in its columns. -/
def ShowsRow (lines cells : List (List Char)) : Prop :=
  ∃ (before : List (List Char)) (grid : List (List (List Char))) (after : List (List Char))
      (blanks : Nat),
    lines = before ++ grid.map (fun parts => framedLine blanks (Table.framed '│' parts)) ++ after ∧
      (∀ parts ∈ grid, parts.length = cells.length) ∧
      ∀ j cell, cells[j]? = some cell → Table.Show (grid.map fun parts => parts.getD j []) cell

theorem isNarrow_edge : Cells.IsNarrow ['│'] :=
  Cells.isNarrow_of_isFrame fun c hc => by rw [List.mem_singleton.mp hc]; decide

/-- A line that has room is not cut. -/
theorem crop_frame {line : List Char} {inner : Nat} (hjoiner : Cells.joiner ∉ line)
    (hline : Cells.width line + 2 ≤ inner) (hpositive : 2 < inner) (hinner : inner + 2 ≤ width) :
    Cells.crop width
        ('│' :: Cells.fit inner (' ' :: Cells.fit (inner - 2) line ++ [' ']) ++ ['│']) =
      framedLine (inner - 2 - Cells.width line) line := by
  have hfit := Cells.joiner_not_mem_fit hjoiner (n := inner - 2) (by omega)
  have hfilled := Table.filled_padded (w := inner) (by simp only [Column.padding]; omega) hjoiner
    (by simp only [Column.padding]; omega)
  have hframed : Cells.width ('│' :: Table.padded inner line ++ ['│']) = inner + 2 := by
    have hfresh : Cells.IsFresh (Table.padded inner line ++ ['│']) :=
      Cells.isFresh_cons Cells.isNarrow_blank _
    rw [List.cons_append, Cells.width_cons_of_isFresh isNarrow_edge hfresh,
      Cells.width_append hfilled.joiner isNarrow_edge.isFresh, hfilled.width,
      Cells.width_of_isNarrow isNarrow_edge]
    rfl
  change Cells.crop width ('│' :: Cells.fit inner (Table.padded inner line) ++ ['│']) = _
  rw [Cells.fit_of_width_eq hfilled.width, Cells.crop_of_le (by omega), Table.padded,
    Cells.fit_of_le (by simp only [Column.padding]; omega), framedLine]
  simp [Column.padding]

/-- The lines of a row stand together in a table. -/
theorem exists_rowLines (room : Nat) (columns : List Column) {i : Nat}
    (hi : i < (columns.map fun c => c.cells.length).foldl max 0) :
    ∃ before after, Table.lines room columns = before ++
      Table.rowLines '│' (Table.widths (room - Table.edges columns) columns)
        (Table.row columns i) ++ after := by
  obtain ⟨s, t, hrange⟩ := List.append_of_mem (List.mem_range.mpr hi)
  simp only [Table.lines]
  rw [hrange, List.flatMap_append, List.flatMap_cons]
  exact ⟨_ :: _ ++ _ :: _, _ ++ [_], by simp only [List.append_assoc, List.cons_append]; rfl⟩

/-- A row is shown if its cells settle in the widths that the columns want, and the last one in
all that a console leaves it. -/
theorem showsRow (title : List Char) (hflexible : last.isFlexible = true) (hne : others ≠ [])
    (h : ∀ c ∈ others, c.want + Table.want others + Table.edges (others ++ [last]) + 4 ≤ width)
    {i : Nat} (hi : i < last.cells.length)
    (hothers : ∀ c ∈ others, Table.Settles c.want (c.cells.getD i []))
    (hlast : ∀ w, min last.want
        (width - 4 - Table.edges (others ++ [last]) - Table.want others) ≤ w →
      Table.Settles w (last.cells.getD i [])) :
    ShowsRow (lines width title (others ++ [last])) (Table.row (others ++ [last]) i) := by
  obtain ⟨w, hwidths, hw, hfits⟩ := exists_widths (titleText? title) hflexible hne h
  have hsettles : List.Forall₂ Table.Settles (others.map Column.want ++ [w])
      (Table.row (others ++ [last]) i) := by
    rw [Table.row, List.map_append, List.map_singleton]
    refine List.rel_append ?_ (.cons (hlast w hw) .nil)
    rw [List.forall₂_map_left_iff, List.forall₂_map_right_iff, List.forall₂_same]
    exact hothers
  have hcount : i < ((others ++ [last]).map fun c => c.cells.length).foldl max 0 :=
    hi.trans_le (le_foldl_max (List.mem_map_of_mem (by simp)))
  have hinner := innerWidth_le (width - 2) (titleText? title) (others ++ [last])
  simp only [lines]
  generalize innerWidth (width - 2) (titleText? title) (others ++ [last]) = inner at *
  generalize hblanks : inner - 2 - (Table.want others + w + (others.length + 2)) = blanks
  obtain ⟨before, after, hlines⟩ := exists_rowLines (inner - 2) (others ++ [last]) hcount
  rw [hwidths, Table.rowLines_eq] at hlines
  have hedges : Table.edges (others ++ [last]) = others.length + 2 := by
    simp [Table.edges]
  rw [if_neg (by omega), hlines]
  -- Every line of the row fills the table, whose width is that of its columns and edges.
  have hline : ∀ parts ∈ Table.rowGrid (others.map Column.want ++ [w])
      (Table.row (others ++ [last]) i),
      Cells.crop width ('│' :: Cells.fit inner
          (' ' :: Cells.fit (inner - 2) (Table.framed '│' parts) ++ [' ']) ++ ['│']) =
        framedLine blanks (Table.framed '│' parts) := by
    intro parts hparts
    obtain ⟨hjoiner, hwidth⟩ := Table.width_framed isNarrow_edge
      (Table.filled_of_mem_rowGrid hsettles hparts) (by simp)
    rw [List.sum_append, List.sum_singleton, ← Table.want, List.length_append, List.length_map,
      List.length_singleton] at hwidth
    rw [crop_frame hjoiner (by omega) (by omega) (by omega), hwidth, hblanks]
  simp only [List.map_append, List.map_cons, List.map_map, Function.comp_def]
  rw [List.map_congr_left hline]
  generalize Cells.crop width (top inner (titleText? title)) = upper
  generalize before.map _ = before
  generalize after.map _ = after
  refine ⟨upper :: before, _, after ++ [Cells.crop width (bottom inner)], blanks, ?_,
    fun parts hparts => ?_, fun _ _ hj => Table.show_rowGrid hsettles hj⟩
  · simp only [List.append_assoc, List.cons_append, List.map_nil]
  · exact (Table.filled_of_mem_rowGrid hsettles hparts).length_eq.symm.trans hsettles.length_eq

end Panel
end RegistryAuth
