import RegistryAuth.Report
import RegistryAuth.Proofs.Console.Markup
import RegistryAuth.Proofs.Console.Panel

/-!
# What a report shows

The cells of a report and of a mapping are read as markup, except for the signs of findings.  So
a report can be shown if the markup of its cells can be read (`Report.exists_render_iff`), and
only then if the console has room for any text; without room nothing is read, and nothing fails.

A text that is literal and has room (`IsLegible`) is shown as it stands, up to the breaking of
lines, in the row that it belongs to (`Report.showsRow`, `Mapping.showsRow`).  What the other rows
hold does not matter to that.
-/

namespace RegistryAuth

variable {width k : Nat}

/-! ## Cells -/

/-- Where there is room, what is seen of a cell is what its markup stands for. -/
theorem forall₂_of_shownCells {cells : List String} {shown : List (List Char)}
    (h : shownCells true cells = .ok shown) :
    List.Forall₂ (fun cell text => Markup.render cell.toList = .ok text) cells shown :=
  Except.mapM_eq_ok_iff.mp h

theorem exists_shownCells_iff {hasRoom : Bool} {cells : List String} :
    (∃ shown, shownCells hasRoom cells = .ok shown) ↔
      (hasRoom = true → ∀ cell ∈ cells, Markup.IsReadable cell.toList) := by
  constructor
  · rintro ⟨shown, hshown⟩ rfl cell hcell
    have hcells := forall₂_of_shownCells hshown
    clear hshown
    induction hcells with
    | nil => cases hcell
    | cons htext _ ih =>
      rcases List.mem_cons.mp hcell with rfl | hcell
      · exact ⟨_, htext⟩
      · exact ih hcell
  · intro hall
    induction cells with
    | nil => exact ⟨[], rfl⟩
    | cons cell cells ih =>
      obtain ⟨texts, htexts⟩ := ih fun hroom cell hcell =>
        hall hroom cell (List.mem_cons_of_mem _ hcell)
      have htext : ∃ text, (if hasRoom then Markup.render cell.toList else .ok []) = .ok text := by
        cases hasRoom with
        | false => exact ⟨[], rfl⟩
        | true => exact hall rfl cell List.mem_cons_self
      obtain ⟨text, htext⟩ := htext
      refine ⟨text :: texts, ?_⟩
      rw [shownCells] at htexts ⊢
      rw [List.mapM_cons, htext, htexts]
      rfl

/-- What is made of two columns of cells can be made if the markup of both can be read. -/
theorem exists_bind_shownCells_iff {hasRoom : Bool} {first second : List String} {α : Type}
    {make : List (List Char) → List (List Char) → α} :
    (∃ made, (do
      let xs ← shownCells hasRoom first
      let ys ← shownCells hasRoom second
      return make xs ys) = Except.ok (ε := MarkupError) made) ↔
      (hasRoom = true → (∀ cell ∈ first, Markup.IsReadable cell.toList) ∧
        ∀ cell ∈ second, Markup.IsReadable cell.toList) := by
  rw [forall_and (p := fun _ => _) (q := fun _ => _), ← exists_shownCells_iff,
    ← exists_shownCells_iff]
  constructor
  · rintro ⟨made, hmade⟩
    obtain ⟨xs, hxs, hrest⟩ := Except.bind_eq_ok hmade
    obtain ⟨ys, hys, -⟩ := Except.bind_eq_ok hrest
    exact ⟨⟨xs, hxs⟩, ys, hys⟩
  · rintro ⟨⟨xs, hxs⟩, ys, hys⟩
    exact ⟨make xs ys, by rw [hxs, hys]; rfl⟩

/-- A mapping can be shown if the markup of its keys and values can be read. -/
theorem Mapping.exists_render_iff {m : Mapping} :
    (∃ lines, m.render width = .ok lines) ↔
      (Panel.hasRoom width 2 = true → ∀ field ∈ m.fields, Markup.IsReadable field.1.toList ∧
        Markup.IsReadable (valueText field.2).toList) := by
  refine exists_bind_shownCells_iff.trans (imp_congr_right fun _ => ?_)
  simp only [List.forall_mem_map, ← forall₂_and]

/-- A report can be shown if the markup of its steps and details can be read. -/
theorem Report.exists_render_iff {r : Report} :
    (∃ lines, r.render width = .ok lines) ↔
      (Panel.hasRoom width 3 = true → ∀ f ∈ r.findings, Markup.IsReadable f.step.toList ∧
        Markup.IsReadable f.detail.toList) := by
  refine exists_bind_shownCells_iff.trans (imp_congr_right fun _ => ?_)
  simp only [List.forall_mem_map, ← forall₂_and]

/-! ## Rows -/

/-- A text that stands for itself, and whose words have room in a column of `room` cells. -/
structure IsLegible (room : Nat) (text : String) : Prop where
  literal : Markup.IsLiteral text.toList
  ends : ∀ c ∈ text.toList, Column.isLineEnd c = true → c = '\n'
  fits : Wrap.Fits room text.toList

/-- A text that is legible and that needs no more than `room` cells. -/
structure IsLabel (room : Nat) (text : String) : Prop extends IsLegible room text where
  short : Column.textWidth text.toList ≤ room

theorem IsLegible.fits_textWidth {room : Nat} {text : String} (h : IsLegible room text) :
    Wrap.Fits (Column.textWidth text.toList) text.toList :=
  Column.fits_textWidth h.ends fun line hline => (h.fits line hline).1

/-- A column that holds a legible text, among other cells, shows it in what it wants, and in any
width that has room for its words. -/
theorem IsLegible.settles {room w : Nat} {text : String} (h : IsLegible room text) {c : Column}
    (hfixed : c.fixed = none) (hhead : 0 < Column.textWidth c.head) (hmem : text.toList ∈ c.cells)
    (hroom : 0 < room) (hw : min c.want (room + Column.padding) ≤ w) :
    Table.Settles w text.toList := by
  have hwant := Column.textWidth_le_want hfixed (List.mem_cons_of_mem c.head hmem)
  have hhead' := Column.textWidth_le_want hfixed (List.mem_cons_self (a := c.head) (l := c.cells))
  simp only [Column.padding] at hwant hhead' hw
  refine Table.settles_of_fits (by simp only [Column.padding]; omega) ?_
  refine (h.fits.min h.fits_textWidth).mono ?_
  simp only [Column.padding]
  omega

/-- A column of labels wants no more than they need, and its head. -/
theorem want_le_of_isLabel {c : Column} (hfixed : c.fixed = none)
    (hhead : Column.textWidth c.head ≤ k) (hcells : ∀ cell ∈ c.cells, Column.textWidth cell ≤ k) :
    c.want ≤ k + Column.padding := by
  rw [Column.want, hfixed, foldl_max_le_iff]
  refine ⟨Nat.zero_le _, fun w hw => ?_⟩
  obtain ⟨cell, hcell, rfl⟩ := List.mem_map.mp hw
  rcases List.mem_cons.mp hcell with rfl | hcell
  · exact Nat.add_le_add_right hhead _
  · exact Nat.add_le_add_right (hcells cell hcell) _

/-- What is seen of a literal cell is the cell. -/
theorem getElem?_of_shownCells {cells : List String} {shown : List (List Char)} {i : Nat}
    {cell : String} (h : shownCells true cells = .ok shown) (hcell : cells[i]? = some cell)
    (hliteral : Markup.IsLiteral cell.toList) : shown[i]? = some cell.toList := by
  have hcells := forall₂_of_shownCells h
  obtain ⟨hlt, hget⟩ := List.getElem?_eq_some_iff.mp hcell
  have hlt' : i < shown.length := hcells.length_eq ▸ hlt
  have hrender := hcells.get hlt hlt'
  rw [List.get_eq_getElem, List.get_eq_getElem, hget, Markup.render_of_isLiteral hliteral]
    at hrender
  rw [List.getElem?_eq_getElem hlt', Except.ok.inj hrender]

/-- What is seen of labels is labels. -/
theorem textWidth_le_of_shownCells {cells : List String} {shown : List (List Char)}
    (h : shownCells true cells = .ok shown) (hlabels : ∀ cell ∈ cells, IsLabel k cell) :
    ∀ cell ∈ shown, Column.textWidth cell ≤ k := by
  intro cell hcell
  obtain ⟨i, hi⟩ := List.mem_iff_getElem?.mp hcell
  have hcells := forall₂_of_shownCells h
  obtain ⟨hlt, -⟩ := List.getElem?_eq_some_iff.mp hi
  have hlt' : i < cells.length := hcells.length_eq ▸ hlt
  have hlabel := hlabels cells[i] (List.getElem_mem hlt')
  have hsame := getElem?_of_shownCells h (List.getElem?_eq_getElem hlt') hlabel.literal
  rw [hi] at hsame
  rw [Option.some.inj hsame]
  exact hlabel.short

/-- A column of labels: it wants little, and each of its cells settles in that. -/
theorem settles_of_isLabel {c : Column} (hfixed : c.fixed = none)
    (hhead : 0 < Column.textWidth c.head) {i : Nat} {text : String} (h : IsLabel k text)
    (hk : 0 < k) (hi : c.cells[i]? = some text.toList) :
    Table.Settles c.want (c.cells.getD i []) := by
  rw [List.getD_eq_getElem?_getD, hi]
  exact h.toIsLegible.settles hfixed hhead (List.mem_of_getElem? hi) hk (min_le_left _ _)

/-- Labels that are seen in a column: each as it is, in little width. -/
theorem column_of_shownCells (head : List Char) (hhead : 0 < Column.textWidth head)
    (hk : Column.textWidth head ≤ k) {cells : List String} {shown : List (List Char)}
    (h : shownCells true cells = .ok shown) (hlabels : ∀ cell ∈ cells, IsLabel k cell) {i : Nat}
    {text : String} (hi : cells[i]? = some text) :
    shown[i]? = some text.toList ∧ (Column.mk head none shown).want ≤ k + Column.padding ∧
      Table.Settles (Column.mk head none shown).want
        ((Column.mk head none shown).cells.getD i []) := by
  have hlabel := hlabels text (List.mem_of_getElem? hi)
  have hcell := getElem?_of_shownCells h hi hlabel.literal
  exact ⟨hcell, want_le_of_isLabel rfl hk (textWidth_le_of_shownCells h hlabels),
    settles_of_isLabel (c := ⟨head, none, shown⟩) rfl hhead hlabel (by omega) hcell⟩

/-- A row is shown if its last cell is legible and the others settle. -/
theorem showsRow_of_isLegible (width : Nat) (others : List Column) (last : Column)
    (title : List Char) (hflexible : last.fixed = none)
    (hhead : 0 < Column.textWidth last.head) (hne : others ≠ [])
    (h : ∀ c ∈ others, c.want + Table.want others + Table.edges (others ++ [last]) + 4 ≤ width)
    {i room : Nat} {text : String} (hi : last.cells[i]? = some text.toList)
    (hothers : ∀ c ∈ others, Table.Settles c.want (c.cells.getD i []))
    (htext : IsLegible room text) (hpositive : 0 < room)
    (hroom : room + Column.padding + Table.want others + Table.edges (others ++ [last]) + 4 ≤
      width) :
    Panel.ShowsRow (Panel.lines width title (others ++ [last]))
      (Table.row (others ++ [last]) i) := by
  refine Panel.showsRow title (by rw [Column.isFlexible, hflexible]; rfl) hne h
    (List.getElem?_eq_some_iff.mp hi).1 hothers fun w hw => ?_
  rw [List.getD_eq_getElem?_getD, hi]
  exact htext.settles hflexible hhead (List.mem_of_getElem? hi) hpositive (by omega)

/-! ## Mappings and reports -/

theorem textWidth_heads : Column.textWidth "Field".toList = 5 ∧
    Column.textWidth "Value".toList = 5 ∧ Column.textWidth "Step".toList = 4 ∧
      Column.textWidth "Detail".toList = 6 := by
  refine ⟨?_, ?_, ?_, ?_⟩ <;> rw [Column.textWidth_of_ascii (by simp)] <;> simp

/-- A mapping whose keys are labels shows a field with a legible value as it is. -/
theorem Mapping.showsRow {m : Mapping} (hk : 5 ≤ k) (hwidth : 2 * k + 11 ≤ width)
    (hkeys : ∀ field ∈ m.fields, IsLabel k field.1) {lines : List String}
    (hlines : m.render width = .ok lines) {field : String × Json} (hfield : field ∈ m.fields)
    (hvalue : IsLegible (width - (k + 11)) (valueText field.2)) :
    Panel.ShowsRow (lines.map String.toList)
      [field.1.toList, (valueText field.2).toList] := by
  obtain ⟨i, hi⟩ := List.mem_iff_getElem?.mp hfield
  obtain ⟨hfieldHead, hvalueHead, -⟩ := textWidth_heads
  have hroom : Panel.hasRoom width 2 = true := by
    rw [Panel.hasRoom, Column.padding, decide_eq_true_iff]
    omega
  rw [render, hroom] at hlines
  obtain ⟨keys, hkeys', hrest⟩ := Except.bind_eq_ok hlines
  obtain ⟨values, hvalues', hmade⟩ := Except.bind_eq_ok hrest
  rw [← Except.ok.inj hmade, List.map_map]
  simp only [Function.comp_def, String.toList_ofList, List.map_id']
  obtain ⟨hkey, hwant, hsettles⟩ := column_of_shownCells "Field".toList (by omega) (by omega)
    hkeys' (List.forall_mem_map.mpr hkeys) (by rw [List.getElem?_map, hi]; rfl)
  have hval : values[i]? = some (valueText field.2).toList :=
    getElem?_of_shownCells hvalues' (by rw [List.getElem?_map, hi]; rfl) hvalue.literal
  generalize hcolumn : Column.mk "Field".toList none keys = column at hwant hsettles
  have hothers : Table.want [column] = column.want := List.sum_singleton
  have hedges (last : Column) : Table.edges ([column] ++ [last]) = 3 := rfl
  have hshows := showsRow_of_isLegible width [column] ⟨"Value".toList, none, values⟩
    m.title.toList rfl (by dsimp only; omega) (List.cons_ne_nil _ _) ?_ hval ?_ hvalue (by omega) ?_
  · subst hcolumn
    simpa [Table.row, hkey, hval] using hshows
  · intro c hc
    rw [List.mem_singleton.mp hc, hothers, hedges]
    simp only [Column.padding] at hwant
    omega
  · intro c hc
    rw [List.mem_singleton.mp hc]
    exact hsettles
  · rw [hothers, hedges]
    simp only [Column.padding] at hwant ⊢
    omega

/-- The sign of a finding is a word of at most two characters. -/
theorem Finding.settles_sign (f : Finding) : Table.Settles 10 f.sign := by
  rw [Finding.sign]
  split
  · exact Table.settles_of_word (List.cons_ne_nil _ _)
      (List.forall_mem_singleton.mpr ⟨rfl, by decide⟩) (by decide)
  · split
    · exact Table.settles_of_word (List.cons_ne_nil _ _) (List.forall_mem_cons.mpr
        ⟨⟨rfl, by decide⟩, List.forall_mem_singleton.mpr ⟨rfl, by decide⟩⟩) (by decide)
    · exact Table.settles_of_word (List.cons_ne_nil _ _)
        (List.forall_mem_singleton.mpr ⟨rfl, by decide⟩) (by decide)

/-- A report whose steps are labels shows a finding with a legible detail as it is. -/
theorem Report.showsRow {r : Report} (hk : 8 ≤ k) (hwidth : 2 * k + 22 ≤ width)
    (hsteps : ∀ f ∈ r.findings, IsLabel k f.step) {lines : List String}
    (hlines : r.render width = .ok lines) {f : Finding} (hf : f ∈ r.findings)
    (hdetail : IsLegible (width - (k + 22)) f.detail) :
    Panel.ShowsRow (lines.map String.toList) [f.sign, f.step.toList, f.detail.toList] := by
  obtain ⟨i, hi⟩ := List.mem_iff_getElem?.mp hf
  obtain ⟨-, -, hstepHead, hdetailHead⟩ := textWidth_heads
  have hroom : Panel.hasRoom width 3 = true := by
    rw [Panel.hasRoom, Column.padding, decide_eq_true_iff]
    omega
  rw [render, hroom] at hlines
  obtain ⟨steps, hsteps', hrest⟩ := Except.bind_eq_ok hlines
  obtain ⟨details, hdetails', hmade⟩ := Except.bind_eq_ok hrest
  rw [← Except.ok.inj hmade, List.map_map]
  simp only [Function.comp_def, String.toList_ofList, List.map_id']
  obtain ⟨hstep, hwant, hsettles⟩ := column_of_shownCells "Step".toList (by omega) (by omega)
    hsteps' (List.forall_mem_map.mpr hsteps) (by rw [List.getElem?_map, hi]; rfl)
  have hdet : details[i]? = some f.detail.toList :=
    getElem?_of_shownCells hdetails' (by rw [List.getElem?_map, hi]; rfl) hdetail.literal
  have hsign : Table.Settles (Column.mk "Status".toList (some 8) (r.findings.map Finding.sign)).want
      ((r.findings.map Finding.sign).getD i []) := by
    rw [List.getD_eq_getElem?_getD, List.getElem?_map, hi]
    exact f.settles_sign
  generalize hcolumn : Column.mk "Step".toList none steps = column at hwant hsettles
  generalize hstatus : Column.mk "Status".toList (some 8) (r.findings.map Finding.sign) = status
    at hsign
  have hstatusWant : status.want = 10 := by
    subst hstatus
    rfl
  have hothers : Table.want [status, column] = 10 + column.want := by
    rw [← hstatusWant]
    simp [Table.want]
  have hedges (last : Column) : Table.edges ([status, column] ++ [last]) = 4 := rfl
  have hshows := showsRow_of_isLegible width [status, column] ⟨"Detail".toList, none, details⟩
    r.title.toList rfl (by dsimp only; omega) (List.cons_ne_nil _ _) ?_ hdet ?_ hdetail (by omega)
    ?_
  · subst hcolumn hstatus
    simpa [Table.row, hstep, hdet, hi] using hshows
  · simp only [Column.padding] at hwant
    rw [List.forall_mem_cons, List.forall_mem_singleton, hothers, hedges]
    omega
  · rw [List.forall_mem_cons, List.forall_mem_singleton]
    subst hstatus
    exact ⟨hsign, hsettles⟩
  · rw [hothers, hedges]
    simp only [Column.padding] at hwant ⊢
    omega

end RegistryAuth
