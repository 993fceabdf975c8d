import RegistryAuth.Json.Value

/-!
# Writing JSON

A document is written in ASCII: every other character is an escape of four
hexadecimal digits, those beyond the basic plane a pair of halves.  Members and items
are separated by a comma and a blank, a name and its value by a colon and a blank.
-/

namespace RegistryAuth
namespace Json

/-- An escape of four hexadecimal digits. -/
def unitEscape (n : Nat) : List Char := ['\\', 'u'] ++ Text.hexDigits 4 n

/-- One character of a text. -/
def printChar (c : Char) : List Char :=
  if c = '"' then ['\\', '"']
  else if c = '\\' then ['\\', '\\']
  else if c = '\n' then ['\\', 'n']
  else if c = '\r' then ['\\', 'r']
  else if c = '\t' then ['\\', 't']
  else if c.toNat = 8 then ['\\', 'b']
  else if c.toNat = 12 then ['\\', 'f']
  else if 32 ≤ c.toNat ∧ c.toNat < 127 then [c]
  else if c.toNat < 0x10000 then unitEscape c.toNat
  else
    unitEscape (0xD800 + (c.toNat - 0x10000) / 1024) ++
      unitEscape (0xDC00 + (c.toNat - 0x10000) % 1024)

/-- One code point of a text; a half is an escape. -/
def printCode : Code → List Char
  | .char c => printChar c
  | .half h => unitEscape (Code.half h).toNat

/-- A text in quotes. -/
def printString (s : CodeText) : List Char := '"' :: s.codes.flatMap printCode ++ ['"']

mutual

/-- The text of a value. -/
def print : Json → List Char
  | .null => ['n', 'u', 'l', 'l']
  | .bool true => ['t', 'r', 'u', 'e']
  | .bool false => ['f', 'a', 'l', 's', 'e']
  | .int i => intText i
  | .float d => d.textWith "NaN" "Infinity"
  | .str s => printString s
  | .arr [] => ['[', ']']
  | .arr (v :: vs) => '[' :: print v ++ printItems vs ++ [']']
  | .obj [] => [Char.ofNat 123, Char.ofNat 125]
  | .obj ((k, v) :: rest) =>
    Char.ofNat 123 :: printString k ++ [':', ' '] ++ print v ++ printMembers rest ++
      [Char.ofNat 125]

/-- The items after the first. -/
def printItems : List Json → List Char
  | [] => []
  | v :: vs => [',', ' '] ++ print v ++ printItems vs

/-- The members after the first. -/
def printMembers : List (CodeText × Json) → List Char
  | [] => []
  | (k, v) :: rest =>
    [',', ' '] ++ printString k ++ [':', ' '] ++ print v ++ printMembers rest

end

/-- The text of a document. -/
def render (v : Json) : String := String.ofList (print v)

end Json
end RegistryAuth
