import RegistryAuth.Unicode.Printable

/-!
# Quoted texts in messages

A message that names a path, a host or a document key shows it in quotes: single
quotes, unless the text holds a single and no double quote.  The backslash, the quote
in use and every character that is not printable are written as escapes, so that the
quoted form stands on one line and shows each character apart.
-/

namespace RegistryAuth
namespace Text

/-- One hexadecimal digit in lower case. -/
def hexChar (d : Nat) : Char :=
  if d < 10 then Char.ofNat (48 + d) else Char.ofNat (87 + d)

/-- The lowest `width` hexadecimal digits of `n`. -/
def hexDigits : Nat → Nat → List Char
  | 0, _ => []
  | width + 1, n => hexDigits width (n / 16) ++ [hexChar (n % 16)]

/-- A code point as an escape: two, four or eight hexadecimal digits, whichever is the
first to hold it. -/
def escapeCode (n : Nat) : List Char :=
  if n < 0x100 then ['\\', 'x'] ++ hexDigits 2 n
  else if n < 0x10000 then ['\\', 'u'] ++ hexDigits 4 n
  else ['\\', 'U'] ++ hexDigits 8 n

/-- How one character stands in a text quoted with `q`. -/
def quotedChar (q c : Char) : List Char :=
  if c = q ∨ c = '\\' then ['\\', c]
  else if c = '\t' then ['\\', 't']
  else if c = '\n' then ['\\', 'n']
  else if c = '\r' then ['\\', 'r']
  else if Unicode.isPrintable c then [c]
  else escapeCode c.toNat

/-- The quote that `cs` is written with. -/
def quoteFor (cs : List Char) : Char :=
  if cs.contains '\'' && !cs.contains '"' then '"' else '\''

/-- The text in quotes. -/
def quoted (cs : List Char) : List Char :=
  let q := quoteFor cs
  q :: cs.flatMap (quotedChar q) ++ [q]

/-- Code points in quotes; one that is no character is written as an escape. -/
def quotedCodes (codes : List Nat) : List Char :=
  let q := quoteFor ((codes.filter fun n => n.isValidChar).map Char.ofNat)
  q :: codes.flatMap (fun n =>
    if n.isValidChar then quotedChar q (Char.ofNat n) else escapeCode n) ++ [q]

/-- The text in quotes. -/
def quotedString (s : String) : String := String.ofList (quoted s.toList)

end Text
end RegistryAuth
