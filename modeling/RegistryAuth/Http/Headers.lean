import RegistryAuth.Number.Written
import RegistryAuth.Text.Code
import RegistryAuth.Text.Utf8

/-!
# Headers of requests

The headers of a request keep their order, and their names are the same in either case.
Their values travel as bytes.  Values that a caller gives as texts are written in ASCII, and
bytes may be given just as well.  A value that is set later may hold any text, until the
headers have been read once: reading settles the narrowest character set in which all of
them can be read (`settle`), and from then on nothing may be set that it does not have.
-/

namespace RegistryAuth

/-- The character set in which headers are read and written. -/
inductive Charset where
  | ascii
  | utf8
  | latin1
  deriving Repr, DecidableEq

/-- A run of code points that a character set does not have, and where it begins. -/
structure EncodeError where
  charset : Charset
  position : Nat
  codes : List Code
  deriving Repr, DecidableEq

namespace Charset

/-- The name of a character set in messages. -/
def name : Charset → String
  | .ascii => "ascii"
  | .utf8 => "utf-8"
  | .latin1 => "latin-1"

/-- What a character set says of a code point that it does not have. -/
def complaint : Charset → String
  | .ascii => "ordinal not in range(128)"
  | .utf8 => "surrogates not allowed"
  | .latin1 => "ordinal not in range(256)"

/-- The bytes of a code point, if the character set has it. -/
def bytes? : Charset → Code → Option (List UInt8)
  | .ascii, .char c => if c.toNat < 128 then some [UInt8.ofNat c.toNat] else none
  | .utf8, .char c => some (Text.Utf8.encodeChar c)
  | .latin1, .char c => if c.toNat < 256 then some [UInt8.ofNat c.toNat] else none
  | _, .half _ => none

/-- Whether the character set has a code point. -/
def has (charset : Charset) (c : Code) : Bool := (charset.bytes? c).isSome

/-- The bytes of a text. -/
def encode (charset : Charset) (text : CodeText) : Except EncodeError (List UInt8) :=
  match text.codes.dropWhile charset.has with
  | [] => .ok (text.codes.flatMap fun c => (charset.bytes? c).getD [])
  | rest =>
    .error ⟨charset, (text.codes.takeWhile charset.has).length,
      rest.takeWhile fun c => !charset.has c⟩

/-- Bytes as the characters of the same numbers. -/
def singly (bytes : List UInt8) : List Char := bytes.map fun b => Char.ofNat b.toNat

/-- The characters of bytes.  Those that are not in the character set are read one by
one. -/
def decode (charset : Charset) (bytes : List UInt8) : List Char :=
  match charset, Text.Utf8.decode bytes with
  | .utf8, .ok cs => cs
  | _, _ => singly bytes

end Charset

/-- The message shows the code point when it is a single one, and the span otherwise. -/
def EncodeError.message (e : EncodeError) : String :=
  let subject := match e.codes with
    | [c] => "character '" ++ String.ofList (Text.escapeCode c.toNat) ++ "' in position " ++
        toString e.position
    | cs => "characters in position " ++ toString e.position ++ "-" ++
        toString (e.position + cs.length - 1)
  "'" ++ e.charset.name ++ "' codec can't encode " ++ subject ++ ": " ++ e.charset.complaint

/-- Headers in order, and the character set in which they are settled, if they are. -/
structure Headers where
  items : List (String × List UInt8)
  charset : Option Charset
  deriving Repr, DecidableEq

namespace Headers

/-- No headers. -/
def empty : Headers := ⟨[], none⟩

/-- Whether two names are the same. -/
def sameName (a b : String) : Bool :=
  a.toList.map Char.toLower == b.toList.map Char.toLower

/-- What stands under a name. -/
def under {α : Type} (name : String) (items : List (String × α)) : List α :=
  (items.filter fun item => sameName item.1 name).map Prod.snd

/-- Texts in a row; no text where there are none. -/
def joined? (texts : List String) : Option String :=
  match texts with
  | [] => none
  | texts => some (String.intercalate ", " texts)

/-- Whether `c` can be written in ASCII. -/
def isAscii (c : Char) : Bool := c.toNat < 128

/-- Names and values in ASCII, checked in order. -/
def writeAll : List (String × String) → Except EncodeError (List (String × List UInt8))
  | [] => .ok []
  | (name, value) :: rest => do
    let _ ← Charset.ascii.encode name
    let bytes ← Charset.ascii.encode value
    return (name, bytes) :: (← writeAll rest)

/-- The headers that a caller gives as texts. -/
def ofList (items : List (String × String)) : Except EncodeError Headers :=
  (writeAll items).map fun items => ⟨items, none⟩

/-- The values under a name. -/
def values (h : Headers) (name : String) : List (List UInt8) := under name h.items

/-- Whether there is a header of that name. -/
def contains (h : Headers) (name : String) : Bool := !(h.values name).isEmpty

/-- Whether all that the headers say is in ASCII. -/
def isInAscii (h : Headers) : Bool :=
  h.items.all fun item => item.1.toList.all isAscii && item.2.all fun b => b.toNat < 128

/-- The narrowest character set in which all headers can be read. -/
def narrowest (h : Headers) : Charset :=
  if h.isInAscii then .ascii
  else if h.items.all fun item => (Text.Utf8.decode item.2).isOk then .utf8
  else .latin1

/-- The texts under a name. -/
def texts (h : Headers) (name : String) : List String :=
  (h.values name).map fun bytes =>
    String.ofList ((h.charset.getD h.narrowest).decode bytes)

/-- The text under a name; several are joined by commas. -/
def get? (h : Headers) (name : String) : Option String := joined? (h.texts name)

/-- Without the headers of a name. -/
def erase (h : Headers) (name : String) : Headers :=
  { h with items := h.items.filter fun item => !sameName item.1 name }

/-- Puts a value in the place of the first header of a name and takes the others away,
or puts it behind all of them. -/
def replace (name : String) (value : List UInt8) :
    List (String × List UInt8) → List (String × List UInt8)
  | [] => [(name, value)]
  | item :: rest =>
    if sameName item.1 name then
      (name, value) :: rest.filter fun item => !sameName item.1 name
    else item :: replace name value rest

/-- Sets a header to a value in bytes. -/
def put (h : Headers) (name : String) (value : List UInt8) : Headers :=
  { h with items := replace name value h.items }

/-- The bytes in which a value is written: in the character set that is settled, or in
UTF-8. -/
def encode (h : Headers) (value : CodeText) : Except EncodeError (List UInt8) :=
  (h.charset.getD .utf8).encode value

/-- Sets a header. -/
def set (h : Headers) (name : String) (value : CodeText) : Except EncodeError Headers :=
  (h.encode value).map fun bytes => h.put name bytes

/-- The headers once they have been read. -/
def settle (h : Headers) : Headers :=
  match h.charset with
  | some _ => h
  | none => { h with charset := some h.narrowest }

/-- A copy of the headers, which has not been read. -/
def copy (h : Headers) : Headers := { h with charset := none }

/-- The name of the header that carries credentials. -/
def authorization : String := "Authorization"

/-- What a list of headers says besides credentials. -/
def withoutAuthorization (h : Headers) : List (String × List UInt8) :=
  (h.erase authorization).items

end Headers
end RegistryAuth
