import RegistryAuth.Unicode.CellWidth

/-!
# Text in cells

How many cells a text fills, and cutting it where a number of cells is full.  What fills
no cell belongs to the character before it, and so does the character behind a joiner;
`graphemes` divides a text accordingly, so that a cut never parts them.  A character of
two cells that does not fit before a cut leaves a blank.
-/

namespace RegistryAuth
namespace Cells

/-- The joiner, which makes one emoji of two. -/
def joiner : Char := Char.ofNat 0x200D

/-- The selector that asks for the emoji of a symbol. -/
def emojiSelector : Char := Char.ofNat 0xFE0F

/-- The number of cells that the rest of a text fills; `last` is the last character
before it that fills any and that no selector has followed. -/
def widthAfter (last : Option Char) : List Char → Nat
  | [] => 0
  | c :: cs =>
    if c = joiner then
      match cs with
      | [] => 0
      | _ :: cs => widthAfter last cs
    else if c = emojiSelector then
      (if last.any Unicode.isWidened then 1 else 0) + widthAfter none cs
    else if Unicode.cellWidth c = 0 then widthAfter last cs
    else Unicode.cellWidth c + widthAfter (some c) cs

/-- The number of cells that a text fills. -/
def width (cs : List Char) : Nat := widthAfter none cs

/-- Characters that belong together, and the cells that they fill. -/
structure Grapheme where
  chars : List Char
  cells : Nat
  deriving Repr, DecidableEq

/-- Adds characters, and cells, to the grapheme at the head of a list. -/
def extend (chars : List Char) (cells : Nat) : List Grapheme → List Grapheme
  | [] => [⟨chars, cells⟩]
  | g :: rest => ⟨g.chars ++ chars, g.cells + cells⟩ :: rest

/-- The graphemes of a text behind those of `found`, which stands in reverse. -/
def graphemesAfter (found : List Grapheme) (last : Option Char) : List Char → List Grapheme
  | [] => found.reverse
  | c :: cs =>
    if c = joiner then
      match found, cs with
      | [], cs => graphemesAfter [⟨[c], 0⟩] last cs
      | found, [] => graphemesAfter (extend [c] 0 found) last []
      | found, d :: cs => graphemesAfter (extend [c, d] 0 found) last cs
    else if c = emojiSelector then
      if !found.isEmpty && last.any Unicode.isWidened then
        graphemesAfter (extend [c] 1 found) none cs
      else graphemesAfter (extend [c] 0 found) last cs
    else if Unicode.cellWidth c = 0 then graphemesAfter (extend [c] 0 found) last cs
    else graphemesAfter (⟨[c], Unicode.cellWidth c⟩ :: found) (some c) cs
termination_by cs => cs.length

/-- The graphemes of a text. -/
def graphemes (cs : List Char) : List Grapheme := graphemesAfter [] none cs

/-- The graphemes that fit into `n` cells; a cell that is left over is blank. -/
def takeCells : Nat → List Grapheme → List Char
  | _, [] => []
  | n, g :: rest =>
    if g.cells ≤ n then g.chars ++ if n = g.cells then [] else takeCells (n - g.cells) rest
    else [' ']

/-- The text cut to `n` cells, if it fills more. -/
def crop (n : Nat) (cs : List Char) : List Char :=
  if width cs ≤ n then cs else if n = 0 then [] else takeCells n (graphemes cs)

/-- The text with blanks behind it up to `n` cells. -/
def pad (n : Nat) (cs : List Char) : List Char := cs ++ List.replicate (n - width cs) ' '

/-- The text in `n` cells. -/
def fit (n : Nat) (cs : List Char) : List Char := pad n (crop n cs)

/-- The graphemes in lines of at most `n` cells; `line` is the one begun. -/
def chopFrom (n : Nat) (line : List Char) (cells : Nat) : List Grapheme → List (List Char)
  | [] => if cells = 0 then [] else [line]
  | g :: rest =>
    if n < cells + g.cells then line :: chopFrom n g.chars g.cells rest
    else chopFrom n (line ++ g.chars) (cells + g.cells) rest

/-- A text in lines of at most `n` cells. -/
def chop (n : Nat) (cs : List Char) : List (List Char) := chopFrom n [] 0 (graphemes cs)

end Cells
end RegistryAuth
