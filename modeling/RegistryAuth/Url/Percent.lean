import RegistryAuth.Text.Cut
import RegistryAuth.Text.Quoted
import RegistryAuth.Text.Utf8
import RegistryAuth.Unicode.Runs

/-!
# Percent signs and form fields

A character that may not stand in some part of a URL is written as the bytes of its
UTF-8 form, each behind a percent sign.  `escape` does so for all characters that a part
does not admit; `escapeRest` leaves what is escaped already as it is; `unescape` reads
bytes back.

The fields of a form are names and values with equal signs between them and ampersands
between the fields.  They admit letters, digits and four signs, and write a blank as a
plus sign.
-/

namespace RegistryAuth
namespace Percent

/-- Two hexadecimal digits in upper case, behind a percent sign. -/
def escapeByte (b : UInt8) : List Char := '%' :: (Text.hexDigits 2 b.toNat).map Char.toUpper

/-- The bytes of a character, escaped. -/
def escapeChar (c : Char) : List Char := (Text.Utf8.encodeChar c).flatMap escapeByte

/-- Letters, digits and the four signs that are admitted everywhere. -/
def isUnreserved (c : Char) : Bool := c.isAlphanum || c = '-' || c = '.' || c = '_' || c = '~'

/-- The text with every character escaped that is not admitted. -/
def escape (admits : Char → Bool) (cs : List Char) : List Char :=
  cs.flatMap fun c => if admits c then [c] else escapeChar c

/-- Whether `c` is a hexadecimal digit. -/
def isHex (c : Char) : Bool := (Unicode.hexDigit? c).isSome

/-- The text with every character escaped that is neither admitted nor part of an
escape. -/
def escapeRest (admits : Char → Bool) : List Char → List Char
  | [] => []
  | '%' :: a :: b :: cs =>
    if isHex a && isHex b then '%' :: a :: b :: escapeRest admits cs
    else (if admits '%' then ['%'] else escapeChar '%') ++ escapeRest admits (a :: b :: cs)
  | c :: cs => (if admits c then [c] else escapeChar c) ++ escapeRest admits cs

/-- The bytes that a text writes, escapes read back. -/
def bytes : List Char → List UInt8
  | [] => []
  | '%' :: a :: b :: cs =>
    match Unicode.hexDigit? a, Unicode.hexDigit? b with
    | some x, some y => UInt8.ofNat (16 * x + y) :: bytes cs
    | _, _ => Text.Utf8.encodeChar '%' ++ bytes (a :: b :: cs)
  | c :: cs => Text.Utf8.encodeChar c ++ bytes cs

/-- The text that bytes write, with the replacement character for those that write
none. -/
def replaceFaults : List UInt8 → List Char
  | [] => []
  | b :: bs =>
    match Text.Utf8.front b bs with
    | .char c n => c :: replaceFaults (bs.drop (n - 1))
    | .fault _ n => Char.ofNat 0xFFFD :: replaceFaults (bs.drop (n - 1))
termination_by bs => bs.length
decreasing_by all_goals (simp only [List.length_drop, List.length_cons]; omega)

/-- The text with its escapes read back. -/
def unescape (cs : List Char) : List Char :=
  if cs.contains '%' then replaceFaults (bytes cs) else cs

end Percent

namespace Form

/-- One character of a name or a value. -/
def encodeChar (c : Char) : List Char :=
  if c = ' ' then ['+'] else if Percent.isUnreserved c then [c] else Percent.escapeChar c

/-- A name or a value. -/
def encodePart (cs : List Char) : List Char := cs.flatMap encodeChar

/-- A field. -/
def encodeField (field : List Char × List Char) : List Char :=
  encodePart field.1 ++ '=' :: encodePart field.2

/-- The text of a list of fields. -/
def encode (fields : List (List Char × List Char)) : List Char :=
  List.intercalate ['&'] (fields.map encodeField)

/-- A name or a value, read back. -/
def decodePart (cs : List Char) : List Char :=
  Percent.unescape (cs.map fun c => if c = '+' then ' ' else c)

/-- A field, read back; what has no equal sign is a name without a value. -/
def decodeField (cs : List Char) : List Char × List Char :=
  match Text.cut? (· = '=') cs with
  | some (name, value) => (decodePart name, decodePart value)
  | none => (decodePart cs, [])

/-- The fields that a text holds; empty ones are passed over. -/
def decode (cs : List Char) : List (List Char × List Char) :=
  ((Text.splitOn '&' cs).filter fun part => !part.isEmpty).map decodeField

/-- The text of fields that are given as strings. -/
def encodeStrings (fields : List (String × String)) : String :=
  String.ofList (encode (fields.map fun (k, v) => (k.toList, v.toList)))

end Form
end RegistryAuth
