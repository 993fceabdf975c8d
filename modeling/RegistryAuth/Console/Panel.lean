import RegistryAuth.Console.Markup
import RegistryAuth.Console.Table

/-!
# Panels

A panel is a frame around a table, as wide as the table or its title needs, with the title
in its upper edge.
-/

namespace RegistryAuth
namespace Panel

/-- The title with a blank on both sides; none where it is empty. -/
def titleText? (title : List Char) : Option (List Char) :=
  let shown := Markup.dropControls title
  if shown.isEmpty then none
  else
    some (' ' :: Wrap.expandTabs (shown.map fun c => if c = '\n' then ' ' else c) ++ [' '])

/-- A line of `n` cells with a text in its middle. -/
def centered (n : Nat) (text : List Char) : List Char :=
  let shown := Cells.crop n text
  let free := n - Cells.width shown
  List.replicate (free / 2) '─' ++ shown ++ List.replicate (free - free / 2) '─'

/-- The upper edge of a frame around `inner` cells. -/
def top (inner : Nat) (title : Option (List Char)) : List Char :=
  match title with
  | some text =>
    if inner ≤ 2 then '╭' :: List.replicate inner '─' ++ ['╮']
    else '╭' :: '─' :: centered (inner - 2) text ++ ['─', '╮']
  | none => '╭' :: List.replicate inner '─' ++ ['╮']

/-- The lower edge. -/
def bottom (inner : Nat) : List Char := '╰' :: List.replicate inner '─' ++ ['╯']

/-- The cells inside a frame that can have `room`. -/
def innerWidth (room : Nat) (title : Option (List Char)) (columns : List Column) : Nat :=
  let wanted := min (Table.width room columns + 2) room
  match title with
  | some text => min room (max wanted (Cells.width text + 2))
  | none => wanted

/-- Whether a table of so many columns, in a frame, has room for any text on a console of
`width` cells. -/
def hasRoom (width columns : Nat) : Bool := Column.padding < width - 2 - (columns + 1)

/-- The lines of a table in a frame, on a console of `width` cells. -/
def lines (width : Nat) (title : List Char) (columns : List Column) : List (List Char) :=
  let title := titleText? title
  let inner := innerWidth (width - 2) title columns
  let body := if inner ≤ 2 then [] else (Table.lines (inner - 2) columns).map fun line =>
    '│' :: Cells.fit inner (' ' :: Cells.fit (inner - 2) line ++ [' ']) ++ ['│']
  (top inner title :: body ++ [bottom inner]).map (Cells.crop width)

end Panel
end RegistryAuth
