import RegistryAuth.Console.Cells
import RegistryAuth.Text.Blank

/-!
# Wrapping

A text is wrapped at its words: a word goes to the next line where it does not fit, with
the blanks behind it.  A word that is longer than any line is folded over several of them
or cut short with a mark, as `Overflow` says.
-/

namespace RegistryAuth

/-- What is done about a word that is longer than a line. -/
inductive Overflow where
  | fold
  | ellipsis
  deriving Repr, DecidableEq

namespace Wrap

/-- The distance of tab stops. -/
def tabSize : Nat := 8

/-- Parts with a tab between them, from a number of cells on; every tab becomes a blank and
as many more as the next stop is away. -/
def joinTabs (cells : Nat) : List (List Char) → List Char
  | [] => []
  | [part] => part
  | part :: rest =>
    let start := part ++ [' ']
    let reached := cells + Cells.width start
    let more := (tabSize - reached % tabSize) % tabSize
    start ++ List.replicate more ' ' ++ joinTabs (reached + more) rest

/-- A line with its tabs as blanks. -/
def expandTabs (cs : List Char) : List Char := joinTabs 0 (Text.splitOn '\t' cs)

/-- The words of a line, each with the blanks behind it, and the first also with those
before it.  A line of blanks has none. -/
def wordsFrom : Nat → List Char → List (List Char)
  | 0, _ => []
  | n + 1, cs =>
    let before := cs.takeWhile Text.isBlank
    let rest := cs.dropWhile Text.isBlank
    if rest.isEmpty then []
    else
      let word := rest.takeWhile fun c => !Text.isBlank c
      let rest := rest.dropWhile fun c => !Text.isBlank c
      (before ++ word ++ rest.takeWhile Text.isBlank) ::
        wordsFrom n (rest.dropWhile Text.isBlank)

/-- The words of a line. -/
def words (cs : List Char) : List (List Char) := wordsFrom cs.length cs

/-- A text that is being divided: the lines that are full, in reverse, the line begun, and
the cells that count for it. -/
structure Division where
  full : List (List Char)
  line : List Char
  cells : Nat
  deriving Repr, DecidableEq

namespace Division

/-- Ends the line, unless it is empty. -/
def endLine (d : Division) : Division :=
  if d.line.isEmpty then d else ⟨d.line :: d.full, [], d.cells⟩

/-- Puts a text on a line of its own, or on the first. -/
def startWith (d : Division) (cs : List Char) : Division :=
  { d.endLine with line := cs, cells := Cells.width cs }

/-- Adds a word. -/
def addWord (width : Nat) (overflow : Overflow) (d : Division) (word : List Char) : Division :=
  let size := Cells.width (Text.rtrim word)
  if size + d.cells ≤ width then
    { d with line := d.line ++ word, cells := d.cells + Cells.width word }
  else if width < size then
    match overflow with
    | .fold => (Cells.chop width word).foldl startWith d
    | .ellipsis => d.startWith word
  else d.startWith word

/-- The lines. -/
def lines (d : Division) : List (List Char) := (d.line :: d.full).reverse

end Division

/-- A line divided into lines of at most `width` cells, long words apart. -/
def divide (width : Nat) (overflow : Overflow) (cs : List Char) : List (List Char) :=
  match words cs with
  | [] => [cs]
  | ws => (ws.foldl (Division.addWord width overflow) ⟨[], [], 0⟩).lines

/-- A line of more than `width` characters without the blanks at its end that are too
many.  Characters count here, not cells: a line of wide characters may keep a blank that
does not fit, and is then cut with a mark. -/
def dropExcess (width : Nat) (cs : List Char) : List Char :=
  let blanks := (cs.reverse.takeWhile Text.isBlank).length
  cs.take (cs.length - min blanks (cs.length - width))

/-- The mark of what was cut. -/
def mark : Char := '…'

/-- A line cut to `width` cells. -/
def truncate (width : Nat) (overflow : Overflow) (cs : List Char) : List Char :=
  if Cells.width cs ≤ width then cs
  else
    match overflow with
    | .fold => Cells.crop width cs
    | .ellipsis => Cells.crop (width - 1) cs ++ [mark]

/-- The lines of a text. -/
def lines (width : Nat) (overflow : Overflow) (cs : List Char) : List (List Char) :=
  (Text.splitOn '\n' cs).flatMap fun line =>
    (divide width overflow (if line.contains '\t' then expandTabs line else line)).map fun line =>
      truncate width overflow (dropExcess width line)

end Wrap
end RegistryAuth
