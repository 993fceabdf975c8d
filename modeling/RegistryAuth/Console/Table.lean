import RegistryAuth.Console.Wrap

/-!
# Tables

A table has a head and rows, and columns as wide as their widest line.  Where the columns
are too wide together, the widest ones give way first, down to the width of the next; a
column of fixed width keeps it as long as the others can give way.  A cell has a blank on
both sides, and what does not fit is wrapped, or cut within a word.
-/

namespace RegistryAuth

/-- A column: its head, its width if it is fixed, and its cells. -/
structure Column where
  head : List Char
  fixed : Option Nat
  cells : List (List Char)
  deriving Repr, DecidableEq

namespace Column

/-- The blanks on both sides of a cell. -/
def padding : Nat := 2

/-- Whether `c` ends a line when the width of a text is taken. -/
def isLineEnd (c : Char) : Bool :=
  let n := c.toNat
  (10 ≤ n && n ≤ 13) || (28 ≤ n && n ≤ 30) || n = 0x85 || n = 0x2028 || n = 0x2029

/-- The width of the widest line of a text. -/
def textWidth (cs : List Char) : Nat :=
  ((Text.splitWhere isLineEnd cs).map Cells.width).foldl max 0

/-- The width that a column wants where it can have `room`. -/
def widthWithin (room : Nat) (c : Column) : Nat :=
  match c.fixed with
  | some n => min (n + padding) room
  | none => ((c.head :: c.cells).map fun cell =>
      if room ≤ padding then room else min (textWidth cell + padding) room).foldl max 0

/-- Whether a column may give way. -/
def isFlexible (c : Column) : Bool := c.fixed.isNone

end Column

namespace Table

/-- The whole number nearest to a quotient; of two, the even one. -/
def roundDiv (n d : Nat) : Nat :=
  let q := n / d
  let r := n % d
  if 2 * r < d then q else if d < 2 * r then q + 1 else q + q % 2

/-- Takes a total from widths by equal shares.  Only widths that are marked give a share,
and none more than its limit; a width that has no limit to give is passed over. -/
def shareOut (total shares : Nat) : List (Nat × Bool × Nat) → List Nat
  | [] => []
  | (width, isMarked, limit) :: rest =>
    if isMarked && limit ≠ 0 && shares ≠ 0 then
      let share := min limit (roundDiv total shares)
      (width - share) :: shareOut (total - share) (shares - 1) rest
    else width :: shareOut total shares rest

/-- Takes a total from the marked widths. -/
def reduce (total : Nat) (widths : List (Nat × Bool × Nat)) : List Nat :=
  shareOut total (widths.filter fun w => w.2.1 && w.2.2 ≠ 0).length widths

/-- The widths together. -/
def extent (widths : List Nat) : Nat := widths.foldl (· + ·) 0

/-- The widest of the flexible columns give way until the widths sum up to `room`, in so
many rounds at most.  In a round they come down to the next width, if need be. -/
def collapse (room : Nat) (flexible : List Bool) : Nat → List Nat → List Nat
  | 0, widths => widths
  | rounds + 1, widths =>
    let excess := extent widths - room
    if excess = 0 then widths
    else
      let marked := widths.zip flexible
      let widest := ((marked.filter Prod.snd).map Prod.fst).foldl max 0
      let next := (marked.map fun (w, f) => if f && w ≠ widest then w else 0).foldl max 0
      if widest = next then widths
      else
        collapse room flexible rounds (reduce excess (marked.map fun (w, f) =>
          (w, f && w = widest, min excess (widest - next))))

/-- The widths of columns that have `room` together. -/
def widths (room : Nat) (columns : List Column) : List Nat :=
  let wanted := columns.map fun c => max 1 (c.widthWithin room)
  if extent wanted ≤ room then wanted
  else
    let flexible := columns.map Column.isFlexible
    let given :=
      if flexible.contains true then collapse room flexible (extent wanted) wanted else wanted
    let given :=
      if extent given ≤ room then given
      else reduce (extent given - room) (given.map fun w => (w, true, w))
    columns.zipWith (fun c w => c.widthWithin w) given

/-- The lines between and around the columns. -/
def edges (columns : List Column) : Nat := columns.length + 1

/-- The width of a table that can have `room`. -/
def width (room : Nat) (columns : List Column) : Nat :=
  let inner := extent (widths (room - edges columns) columns)
  min room (extent (columns.map (Column.widthWithin inner)) + edges columns)

/-- The lines of a cell; it has none where there is only room for its blanks. -/
def cellLines (width : Nat) (cs : List Char) : List (List Char) :=
  let inner := width - Column.padding
  if inner = 0 then [] else (Wrap.lines inner .ellipsis cs).map fun line =>
    Cells.fit width (' ' :: Cells.fit inner line ++ [' '])

/-- A line through the columns. -/
def rule (left middle right dash : Char) (widths : List Nat) : List Char :=
  left :: List.intercalate [middle] (widths.map fun w => List.replicate w dash) ++ [right]

/-- The lines of a row, one at least, with `bar` between and around the cells. -/
def rowLines (bar : Char) (widths : List Nat) (cells : List (List Char)) : List (List Char) :=
  let blocks := widths.zipWith (fun w cell => (w, cellLines w cell)) cells
  let height := (blocks.map fun block => block.2.length).foldl max 1
  (List.range height).map fun i =>
    bar :: List.intercalate [bar] (blocks.map fun (w, block) =>
      block.getD i (List.replicate w ' ')) ++ [bar]

/-- The cells of a row. -/
def row (columns : List Column) (i : Nat) : List (List Char) :=
  columns.map fun c => c.cells.getD i []

/-- The lines of a table that can have `room`. -/
def lines (room : Nat) (columns : List Column) : List (List Char) :=
  let ws := widths (room - edges columns) columns
  let count := (columns.map fun c => c.cells.length).foldl max 0
  rule '┏' '┳' '┓' '━' ws :: rowLines '┃' ws (columns.map Column.head) ++
    rule '┡' '╇' '┩' '━' ws ::
    (List.range count).flatMap (fun i => rowLines '│' ws (row columns i)) ++
    [rule '└' '┴' '┘' '─' ws]

end Table
end RegistryAuth
