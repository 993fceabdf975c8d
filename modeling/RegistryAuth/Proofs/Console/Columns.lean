import Mathlib
import RegistryAuth.Console.Panel

/-!
# The widths of columns

A column wants to be as wide as its widest line and the blanks beside it (`Column.want`), and
has that or all the room that there is (`Column.widthWithin_eq`).

Where the other columns leave a flexible last one at least the width of the widest of them, it
alone gives way: the others have what they want, and the last one has what is left
(`Table.widths_append`).  A frame leaves a table what it wants, as far as a console goes
(`Panel.le_innerWidth`).
-/

namespace RegistryAuth

theorem foldl_max_le_iff {l : List Nat} {a n : Nat} :
    l.foldl max a ≤ n ↔ a ≤ n ∧ ∀ w ∈ l, w ≤ n := by
  induction l generalizing a with
  | nil => simp
  | cons w l ih => rw [List.foldl_cons, ih, Nat.max_le, List.forall_mem_cons, and_assoc]

theorem le_foldl_max {l : List Nat} {w : Nat} (hw : w ∈ l) : w ≤ l.foldl max 0 :=
  (foldl_max_le_iff.mp le_rfl).2 w hw

namespace Column

/-- The width that a column wants, however much room there is. -/
def want (c : Column) : Nat :=
  match c.fixed with
  | some n => n + padding
  | none => ((c.head :: c.cells).map fun cell => textWidth cell + padding).foldl max 0

theorem widthWithin_eq (c : Column) (room : Nat) : c.widthWithin room = min c.want room := by
  cases hfixed : c.fixed with
  | some n => simp only [widthWithin, want, hfixed]
  | none =>
    refine eq_of_forall_ge_iff fun n => ?_
    simp only [widthWithin, want, hfixed, min_le_iff, foldl_max_le_iff, List.forall_mem_map]
    by_cases hroom : room ≤ n
    · refine iff_of_true ⟨Nat.zero_le n, fun cell _ => ?_⟩ (.inr hroom)
      split
      · exact hroom
      · exact (min_le_right _ _).trans hroom
    · -- The room is above `n`, so a line is below `n` whatever room there is, or not at all.
      have hcell : ∀ cell, (if room ≤ padding then room else
          min (textWidth cell + padding) room) ≤ n ↔ textWidth cell + padding ≤ n := by
        intro cell
        split <;> omega
      simp only [hcell, hroom, or_false]

/-- The width of a line of a cell, with the blanks beside it, is wanted. -/
theorem textWidth_le_want {c : Column} (hfixed : c.fixed = none) {cell : List Char}
    (hcell : cell ∈ c.head :: c.cells) : textWidth cell + padding ≤ c.want := by
  rw [want, hfixed]
  exact le_foldl_max (List.mem_map_of_mem hcell)

theorem padding_le_want (c : Column) : padding ≤ c.want := by
  cases hfixed : c.fixed with
  | none => exact (Nat.le_add_left _ _).trans (textWidth_le_want hfixed List.mem_cons_self)
  | some n =>
    rw [want, hfixed]
    exact Nat.le_add_left _ _

end Column

namespace Table

variable {columns others : List Column} {last : Column} {room : Nat}

theorem extent_eq_sum (widths : List Nat) : extent widths = widths.sum := by
  rw [extent, List.sum_eq_foldl]

/-- The width that columns want together. -/
def want (columns : List Column) : Nat := (columns.map Column.want).sum

theorem want_append (columns : List Column) (last : Column) :
    want (columns ++ [last]) = want columns + last.want := by
  simp [want]

theorem le_want {c : Column} (hc : c ∈ columns) : c.want ≤ want columns :=
  List.single_le_sum (fun _ _ => Nat.zero_le _) _ (List.mem_map_of_mem hc)

theorem widthWithin_of_le {c : Column} (h : c.want ≤ room) : c.widthWithin room = c.want := by
  rw [Column.widthWithin_eq, min_eq_left h]

theorem max_widthWithin (c : Column) (h : 0 < room) :
    max 1 (c.widthWithin room) = min c.want room := by
  have := c.padding_le_want
  rw [Column.widthWithin_eq]
  simp only [Column.padding] at this
  omega

theorem map_widthWithin (h : ∀ c ∈ columns, c.want ≤ room) :
    columns.map (Column.widthWithin room) = columns.map Column.want :=
  List.map_congr_left fun c hc => widthWithin_of_le (h c hc)

theorem map_max_widthWithin (h : ∀ c ∈ columns, c.want ≤ room) :
    columns.map (fun c => max 1 (c.widthWithin room)) = columns.map Column.want := by
  refine List.map_congr_left fun c hc => ?_
  have := c.padding_le_want
  have := h c hc
  simp only [Column.padding] at *
  rw [max_widthWithin c (by omega), min_eq_left (h c hc)]

/-- Columns that have room have what they want. -/
theorem widths_of_le (h : want columns ≤ room) : widths room columns = columns.map Column.want := by
  have hall : ∀ c ∈ columns, c.want ≤ room := fun c hc => (le_want hc).trans h
  rw [widths]
  simp only [map_max_widthWithin hall, extent_eq_sum]
  exact if_pos h

/-! ## Giving way -/

theorem roundDiv_one (n : Nat) : roundDiv n 1 = n := by
  simp [roundDiv, Nat.mod_one]

theorem shareOut_append (total shares : Nat) (unmarked : List (Nat × Bool × Nat))
    (rest : List (Nat × Bool × Nat)) (h : ∀ w ∈ unmarked, w.2.1 = false) :
    shareOut total shares (unmarked ++ rest) =
      unmarked.map Prod.fst ++ shareOut total shares rest := by
  induction unmarked with
  | nil => rfl
  | cons w unmarked ih =>
    obtain ⟨width, isMarked, limit⟩ := w
    obtain ⟨rfl, hunmarked⟩ := List.forall_mem_cons.mp h
    rw [List.cons_append, shareOut, ih hunmarked]
    simp

/-- Where only the last width is marked, it gives all. -/
theorem reduce_append {total width limit : Nat} (unmarked : List (Nat × Bool × Nat))
    (h : ∀ w ∈ unmarked, w.2.1 = false) (htotal : 0 < total) (hlimit : total ≤ limit) :
    reduce total (unmarked ++ [(width, true, limit)]) =
      unmarked.map Prod.fst ++ [width - total] := by
  have hnone : unmarked.filter (fun w => w.2.1 && w.2.2 ≠ 0) = [] := by
    rw [List.filter_eq_nil_iff]
    intro w hw
    simp [h w hw]
  have hlimit0 : limit ≠ 0 := by omega
  rw [reduce, List.filter_append, hnone, shareOut_append _ _ _ _ h]
  simp [shareOut, hlimit0, roundDiv_one, min_eq_right hlimit]

/-- A flexible width above all others is the widest. -/
theorem widest_append {marked : List (Nat × Bool)} {w : Nat} (h : ∀ v ∈ marked, v.1 < w) :
    (((marked ++ [(w, true)]).filter Prod.snd).map Prod.fst).foldl max 0 = w := by
  refine le_antisymm (foldl_max_le_iff.mpr ⟨Nat.zero_le w, ?_⟩) (le_foldl_max (by simp))
  intro v hv
  obtain ⟨u, hu, rfl⟩ := List.mem_map.mp hv
  rcases List.mem_append.mp (List.mem_filter.mp hu).1 with hu | hu
  · exact (h u hu).le
  · rw [List.mem_singleton.mp hu]

/-- The next width below it is among the others. -/
theorem next_append_le {marked : List (Nat × Bool)} {n : Nat} (h : ∀ v ∈ marked, v.1 ≤ n)
    (w : Nat) :
    ((marked ++ [(w, true)]).map fun (v, f) => if f && v ≠ w then v else 0).foldl max 0 ≤ n := by
  refine foldl_max_le_iff.mpr ⟨Nat.zero_le n, fun v hv => ?_⟩
  obtain ⟨u, hu, rfl⟩ := List.mem_map.mp hv
  rcases List.mem_append.mp hu with hu | hu
  · have := h u hu
    dsimp only
    split
    · exact this
    · exact Nat.zero_le n
  · rw [List.mem_singleton.mp hu]
    simp

/-- Where nothing is in excess, no width gives way. -/
theorem collapse_of_sum_le {ws : List Nat} (h : ws.sum ≤ room) (flexible : List Bool)
    (rounds : Nat) : collapse room flexible rounds ws = ws := by
  cases rounds with
  | zero => rw [collapse]
  | succ rounds =>
    rw [collapse, extent_eq_sum]
    exact if_pos (Nat.sub_eq_zero_of_le h)

/-- A width above all others comes down to what is left, and the others stay as they are. -/
theorem collapse_append {ws : List Nat} {flexible : List Bool} {w rounds : Nat}
    (hlength : ws.length = flexible.length) (habove : ∀ v ∈ ws, v + ws.sum ≤ room)
    (hw : room < ws.sum + w) (hsum : ws.sum ≤ room) :
    collapse room (flexible ++ [true]) (rounds + 1) (ws ++ [w]) = ws ++ [room - ws.sum] := by
  have hexcess : extent (ws ++ [w]) - room = ws.sum + w - room := by
    rw [extent_eq_sum]
    simp
  have hzip : (ws ++ [w]).zip (flexible ++ [true]) = ws.zip flexible ++ [(w, true)] := by
    rw [List.zip_append hlength]
    rfl
  have hfits : ∀ v ∈ ws.zip flexible, v.1 ≤ room - ws.sum := fun v hv =>
    Nat.le_sub_of_add_le (habove v.1 (List.of_mem_zip hv).1)
  have hbelow : ∀ v ∈ ws.zip flexible, v.1 < w := fun v hv => by
    have := hfits v hv
    omega
  have hnext := next_append_le hfits w
  rw [collapse]
  simp only [hexcess, hzip, widest_append hbelow]
  generalize ((ws.zip flexible ++ [(w, true)]).map fun (v, f) =>
    if f && v ≠ w then v else 0).foldl max 0 = next at hnext
  rw [if_neg (by omega), if_neg (by omega), List.map_append, List.map_singleton]
  simp only [decide_true, Bool.and_true]
  rw [reduce_append _ _ (by omega) (by omega), List.map_map]
  · have hfst : (ws.zip flexible).map Prod.fst = ws := List.map_fst_zip hlength.le
    have hleft : w - (ws.sum + w - room) = room - ws.sum := by omega
    rw [show (Prod.fst ∘ fun (v : Nat × Bool) => (v.1, v.2 && decide (v.1 = w),
      min (ws.sum + w - room) (w - next))) = Prod.fst from rfl, hfst, hleft]
    refine collapse_of_sum_le ?_ _ rounds
    rw [List.sum_append, List.sum_singleton]
    omega
  · intro v hv
    obtain ⟨u, hu, rfl⟩ := List.mem_map.mp hv
    have := hbelow u hu
    simp only [Bool.and_eq_false_iff, decide_eq_false_iff_not]
    exact .inr (by omega)

/-- The last column gives way alone, if the others leave it as much as the widest of them has. -/
theorem widths_append (hflexible : last.isFlexible = true)
    (h : want (others ++ [last]) ≤ room ∨ ∀ c ∈ others, c.want + want others ≤ room)
    (hne : others ≠ []) (hothers : want others + Column.padding ≤ room) :
    widths room (others ++ [last]) =
      others.map Column.want ++ [min last.want (room - want others)] := by
  by_cases hroom : want (others ++ [last]) ≤ room
  · rw [widths_of_le hroom, List.map_append]
    rw [want_append] at hroom
    rw [List.map_singleton, min_eq_left (by omega)]
  · have hwide := h.resolve_left hroom
    rw [want_append] at hroom
    have hlast := last.padding_le_want
    simp only [Column.padding] at hothers hlast
    have hall : ∀ c ∈ others, c.want ≤ room := fun c hc => (le_want hc).trans (by omega)
    have hwanted : (others ++ [last]).map (fun c => max 1 (c.widthWithin room)) =
        others.map Column.want ++ [min last.want room] := by
      rw [List.map_append, map_max_widthWithin hall, List.map_singleton,
        max_widthWithin last (by omega)]
    have hsum : (others.map Column.want).sum = want others := rfl
    have hpos : 0 < want others := by
      obtain ⟨c, hc⟩ := List.exists_mem_of_ne_nil others hne
      exact (Nat.zero_lt_two.trans_le c.padding_le_want).trans_le (le_want hc)
    have hexcess : ¬want others + min last.want room ≤ room := by omega
    have hcollapse : ∀ rounds, collapse room (others.map Column.isFlexible ++ [true])
        (rounds + 1) (others.map Column.want ++ [min last.want room]) =
          others.map Column.want ++ [room - want others] := fun rounds =>
      collapse_append (by simp) (by simpa [want] using hwide) (by rw [hsum]; omega)
        (by rw [hsum]; omega)
    obtain ⟨rounds, hrounds⟩ : ∃ rounds, want others + min last.want room = rounds + 1 :=
      Nat.exists_eq_succ_of_ne_zero (by omega)
    have hleft : want others + (room - want others) ≤ room := by omega
    rw [widths]
    simp only [hwanted, extent_eq_sum, List.sum_append, List.sum_singleton, hsum, if_neg hexcess,
      List.map_append, List.map_singleton, hflexible]
    simp only [hrounds, hcollapse]
    rw [if_pos (show (others.map Column.isFlexible ++ [true]).contains true = true by simp)]
    simp only [List.sum_append, List.sum_singleton, hsum, if_pos hleft]
    rw [List.zipWith_append (by simp)]
    congr 1
    · rw [List.zipWith_map_right, List.zipWith_self]
      exact List.map_congr_left fun c _ => widthWithin_of_le le_rfl
    · simp only [List.zipWith_cons_cons, List.zipWith_nil_right, Column.widthWithin_eq]

/-- A table has what its columns want and the lines around them, if there is room. -/
theorem le_width (hflexible : last.isFlexible = true) (hne : others ≠ [])
    (h : ∀ c ∈ others, c.want + want others ≤ room - edges (others ++ [last])) :
    min (want (others ++ [last]) + edges (others ++ [last])) room ≤
      width room (others ++ [last]) := by
  obtain ⟨c, hc⟩ := List.exists_mem_of_ne_nil others hne
  have hpadding := c.padding_le_want
  have hroom := h c hc
  have hinner : extent (widths (room - edges (others ++ [last])) (others ++ [last])) =
      want others + min last.want (room - edges (others ++ [last]) - want others) := by
    rw [widths_append hflexible (.inr h) hne (by omega), extent_eq_sum, List.sum_append,
      List.sum_singleton, want]
  simp only [width]
  generalize extent (widths (room - edges (others ++ [last])) (others ++ [last])) = inner at hinner
  have hothers : ∀ c ∈ others, c.want ≤ inner := fun c hc => by
    have := le_want hc
    omega
  rw [List.map_append, map_widthWithin hothers, List.map_singleton, extent_eq_sum,
    List.sum_append, List.sum_singleton, Column.widthWithin_eq, ← want, want_append]
  omega

end Table

namespace Panel

variable {others : List Column} {last : Column}

theorem innerWidth_le (room : Nat) (title : Option (List Char)) (columns : List Column) :
    innerWidth room title columns ≤ room := by
  rw [innerWidth.eq_def]
  split
  · exact min_le_left _ _
  · exact min_le_right _ _

theorem le_innerWidth (room : Nat) (title : Option (List Char)) (columns : List Column) :
    min (Table.width room columns + 2) room ≤ innerWidth room title columns := by
  rw [innerWidth.eq_def]
  split
  · exact le_min (min_le_right _ _) (le_max_left _ _)
  · exact le_rfl

/-- In a frame on a console of `width` cells the last column alone gives way, and only to what
a line of the console leaves it. -/
theorem exists_widths {width : Nat} (title : Option (List Char))
    (hflexible : last.isFlexible = true) (hne : others ≠ [])
    (h : ∀ c ∈ others,
      c.want + Table.want others + Table.edges (others ++ [last]) + 4 ≤ width) :
    ∃ w, Table.widths (innerWidth (width - 2) title (others ++ [last]) - 2 -
        Table.edges (others ++ [last])) (others ++ [last]) = others.map Column.want ++ [w] ∧
      min last.want (width - 4 - Table.edges (others ++ [last]) - Table.want others) ≤ w ∧
      Table.want others + w + Table.edges (others ++ [last]) + 2 ≤
        innerWidth (width - 2) title (others ++ [last]) := by
  have hle := innerWidth_le (width - 2) title (others ++ [last])
  have hge := le_innerWidth (width - 2) title (others ++ [last])
  have hothers : ∀ c ∈ others,
      c.want + Table.want others ≤ width - 2 - Table.edges (others ++ [last]) := fun c hc => by
    have := h c hc
    omega
  have hwidth := Table.le_width hflexible hne hothers
  rw [Table.want_append] at hwidth
  obtain ⟨c, hc⟩ := List.exists_mem_of_ne_nil others hne
  have hpadding := c.padding_le_want
  have hlast := last.padding_le_want
  have hroom := h c hc
  generalize innerWidth (width - 2) title (others ++ [last]) = inner at hle hge ⊢
  simp only [Column.padding] at hpadding hlast
  refine ⟨_, Table.widths_append hflexible ?_ hne ?_, ?_, ?_⟩
  · -- Either the table has what it wants, or the frame takes up the whole console.
    by_cases hfull : inner = width - 2
    · exact .inr fun c hc => by have := h c hc; omega
    · rw [Table.want_append]
      exact .inl (by omega)
  · rw [Column.padding]
    omega
  · omega
  · omega

end Panel
end RegistryAuth
