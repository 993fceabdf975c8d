/-!
# A place in a YAML text

Indentation and the reach of a key depend on where a token stands, so the text that is
left is kept together with its position: how many characters lie before it, and its
line and column.  A mark of byte order takes no column.  Behind the last character
stands a NUL, which no text holds.
-/

namespace RegistryAuth
namespace Yaml

/-- The end of the text. -/
def endChar : Char := Char.ofNat 0

/-- Whether `c` ends a line. -/
def isBreak (c : Char) : Bool :=
  c = '\n' || c = '\r' || c.toNat = 0x85 || c.toNat = 0x2028 || c.toNat = 0x2029

/-- Whether a line or the text ends at `c`. -/
def isLineEnd (c : Char) : Bool := c = endChar || isBreak c

/-- Whether `c` is a blank or ends a line. -/
def isGap (c : Char) : Bool := c = ' ' || isLineEnd c

/-- Whether `c` is a blank, a tab, or ends a line. -/
def isWide (c : Char) : Bool := c = '\t' || isGap c

/-- Whether `c` is a blank or a tab. -/
def isLayout (c : Char) : Bool := c = ' ' || c = '\t'

/-- Whether `c` can stand in the name of an anchor, a handle or a directive. -/
def isNameChar (c : Char) : Bool := c.isAlphanum || c = '-' || c = '_'

/-- The text that is left, and where it begins. -/
structure Cursor where
  rest : List Char
  index : Nat
  line : Nat
  column : Nat
  deriving Repr

namespace Cursor

/-- The front of a text. -/
def start (cs : List Char) : Cursor := ⟨cs, 0, 0, 0⟩

/-- The character at a distance. -/
def peekAt (p : Cursor) (n : Nat) : Char := (p.rest[n]?).getD endChar

/-- The next character. -/
def peek (p : Cursor) : Char := p.rest.headD endChar

/-- One character on. -/
def next (p : Cursor) : Cursor :=
  match p.rest with
  | [] => p
  | c :: cs =>
    let newLine := if c = '\r' then cs.head? != some '\n' else isBreak c
    if newLine then ⟨cs, p.index + 1, p.line + 1, 0⟩
    else ⟨cs, p.index + 1, p.line, if c.toNat = 0xFEFF then p.column else p.column + 1⟩

/-- Some characters on. -/
def skip : Nat → Cursor → Cursor
  | 0, p => p
  | n + 1, p => skip n p.next

/-- The characters up to the first that `p` refuses, and the place behind them. -/
def span (accepts : Char → Bool) (p : Cursor) : List Char × Cursor :=
  let taken := p.rest.takeWhile accepts
  (taken, p.skip taken.length)

/-- The place behind the characters that are accepted. -/
def skipWhile (accepts : Char → Bool) (p : Cursor) : Cursor := (p.span accepts).2

/-- The line break at the place, as it is kept, and the place behind it. -/
def lineBreak (p : Cursor) : List Char × Cursor :=
  match p.rest with
  | '\r' :: '\n' :: _ => (['\n'], p.skip 2)
  | c :: _ =>
    if c.toNat = 0x2028 ∨ c.toNat = 0x2029 then ([c], p.next)
    else if isBreak c then (['\n'], p.next)
    else ([], p)
  | [] => ([], p)

/-- Whether the mark of a document's start or end stands here. -/
def atMark (mark : Char) (p : Cursor) : Bool :=
  p.rest.take 3 == [mark, mark, mark] && isWide (p.peekAt 3)

/-- Whether the mark of a document's start or end stands here. -/
def atAnyMark (p : Cursor) : Bool := p.atMark '-' || p.atMark '.'

/-- The place behind blanks and a comment. -/
def skipComment (p : Cursor) : Cursor :=
  let p := p.skipWhile (· = ' ')
  if p.peek = '#' then p.skipWhile fun c => !isLineEnd c else p

end Cursor
end Yaml
end RegistryAuth
