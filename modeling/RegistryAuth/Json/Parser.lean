import RegistryAuth.Json.Value
import RegistryAuth.Number.Reading

/-!
# Reading JSON

`Json.parse` reads a document.  Where it fails it says what was expected and at which
line, column and character; the position is found from the text that was left, so the
readers of the single forms carry no position.

Beyond the standard the words `NaN`, `Infinity` and `-Infinity` are numbers, and half
of a surrogate pair may stand in a text alone, escaped or as it is.  A repeated member
keeps its place and takes the last value.

## Halves in a document

A document that comes as bytes may hold halves itself.  They can only stand inside texts,
where the readers treat them like any character.  So the readers are given the document
as it is shown, with a replacement character for each half, and beside it where the halves
are (`Halves`); a document that is a text has none.
-/

namespace RegistryAuth
namespace Json

/-- What a document lacks at some place. -/
inductive Fault where
  | value
  | name
  | colon
  | comma
  | openString
  | controlChar
  | escape
  | unitEscape
  | extra
  | byteMark
  deriving Repr, DecidableEq

/-- The words for a fault. -/
def Fault.message : Fault → String
  | .value => "Expecting value"
  | .name => "Expecting property name enclosed in double quotes"
  | .colon => "Expecting ':' delimiter"
  | .comma => "Expecting ',' delimiter"
  | .openString => "Unterminated string starting at"
  | .controlChar => "Invalid control character at"
  | .escape => "Invalid \\escape"
  | .unitEscape => "Invalid \\uXXXX escape"
  | .extra => "Extra data"
  | .byteMark => "Unexpected UTF-8 BOM (decode using utf-8-sig)"

/-- Why a text is no document: it is malformed at some place, or it holds a whole
number that is too long. -/
inductive ParseError where
  | malformed (fault : Fault) (line column char : Nat)
  | number (e : NumberError)
  deriving Repr, DecidableEq

/-- The words for the failure. -/
def ParseError.message : ParseError → String
  | .malformed fault line column char =>
    fault.message ++ ": line " ++ toString line ++ " column " ++ toString column ++
      " (char " ++ toString char ++ ")"
  | .number e => e.message

/-- A failure of a reader: the fault with the text left at its place. -/
inductive Failure where
  | at (fault : Fault) (left : List Char)
  | number (e : NumberError)
  deriving Repr

/-- What a reader gives: a value and the text that is left, or a failure. -/
abbrev Read (α : Type) := Except Failure (α × List Char)

/-- Blanks between the parts of a document. -/
def isSpace (c : Char) : Bool := c = ' ' || c = '\t' || c = '\n' || c = '\r'

/-- The text from the first character that is no blank. -/
def skipSpace (cs : List Char) : List Char := cs.dropWhile isSpace

/-- The number that four hexadecimal digits write. -/
def hex4? (a b c d : Char) : Option Nat := do
  let a ← Unicode.hexDigit? a
  let b ← Unicode.hexDigit? b
  let c ← Unicode.hexDigit? c
  let d ← Unicode.hexDigit? d
  return a * 4096 + b * 256 + c * 16 + d

/-- The character that a pair of halves stands for. -/
def pairChar (high low : Nat) : Char :=
  Char.ofNat (0x10000 + (high - 0xD800) * 1024 + (low - 0xDC00))

/-- The character behind a backslash, other than `u`. -/
def simpleEscape? (c : Char) : Option Char :=
  if c = '"' ∨ c = '\\' ∨ c = '/' then some c
  else if c = 'b' then some (Char.ofNat 8)
  else if c = 'f' then some (Char.ofNat 12)
  else if c = 'n' then some '\n'
  else if c = 'r' then some '\r'
  else if c = 't' then some '\t'
  else none

/-- Puts a code point before the text that was read. -/
def prepend (c : Code) (r : Read (List Code)) : Read (List Code) :=
  r.map fun (cs, left) => (c :: cs, left)

/-- The halves that stand in a document, each with the number of characters behind it. -/
abbrev Halves := List (Nat × Half)

/-- What the character `c` of a document stands for, where `left` is behind it. -/
def codeAt (halves : Halves) (c : Char) (left : List Char) : Code :=
  match halves with
  | [] => .char c
  | _ =>
    match halves.lookup left.length with
    | some h => .half h
    | none => .char c

@[simp] theorem codeAt_nil (c : Char) (left : List Char) : codeAt [] c left = .char c := rfl

/-- Reads a text up to its closing quote; `whole` is the text from the opening quote. -/
def readString (halves : Halves) (whole : List Char) : List Char → Read (List Code)
  | [] => .error (.at .openString whole)
  | '"' :: cs => .ok ([], cs)
  | '\\' :: [] => .error (.at .openString whole)
  | '\\' :: 'u' :: a :: b :: c :: d :: '\\' :: 'u' :: a' :: b' :: c' :: d' :: x :: cs =>
    match hex4? a b c d with
    | none =>
      .error (.at .unitEscape
        ('u' :: a :: b :: c :: d :: '\\' :: 'u' :: a' :: b' :: c' :: d' :: x :: cs))
    | some n =>
      if 0xD800 ≤ n ∧ n < 0xDC00 then
        match hex4? a' b' c' d' with
        | none => .error (.at .unitEscape ('u' :: a' :: b' :: c' :: d' :: x :: cs))
        | some m =>
          if 0xDC00 ≤ m ∧ m < 0xE000 then
            prepend (.char (pairChar n m)) (readString halves whole (x :: cs))
          else
            prepend (.ofNat n)
              (readString halves whole ('\\' :: 'u' :: a' :: b' :: c' :: d' :: x :: cs))
      else
        prepend (.ofNat n)
          (readString halves whole ('\\' :: 'u' :: a' :: b' :: c' :: d' :: x :: cs))
  | '\\' :: 'u' :: a :: b :: c :: d :: x :: cs =>
    match hex4? a b c d with
    | none => .error (.at .unitEscape ('u' :: a :: b :: c :: d :: x :: cs))
    | some n => prepend (.ofNat n) (readString halves whole (x :: cs))
  | '\\' :: 'u' :: cs => .error (.at .unitEscape ('u' :: cs))
  | '\\' :: e :: cs =>
    match simpleEscape? e with
    | some c => prepend (.char c) (readString halves whole cs)
    | none => .error (.at .escape ('\\' :: e :: cs))
  | c :: cs =>
    if c.toNat < 32 then .error (.at .controlChar (c :: cs))
    else prepend (codeAt halves c cs) (readString halves whole cs)
termination_by cs => cs.length
decreasing_by all_goals (simp only [List.length_cons]; omega)

/-- The digits of the whole part: one zero, or digits that do not begin with one. -/
def wholeDigits : List Char → Option (List Char × List Char)
  | [] => none
  | c :: cs =>
    if c = '0' then some (['0'], cs)
    else if c.isDigit then some (Number.takeDigits (c :: cs))
    else none

/-- The digits behind a point, where a digit follows it. -/
def fraction : List Char → List Char × List Char
  | '.' :: c :: cs => if c.isDigit then Number.takeDigits (c :: cs) else ([], '.' :: c :: cs)
  | cs => ([], cs)

/-- The exponent, where the letter is followed by digits with or without a sign. -/
def exponent (cs : List Char) : Option Int × List Char :=
  match cs with
  | [] => (none, [])
  | e :: rest =>
    if e = 'e' ∨ e = 'E' then
      let (negative, body) := Number.takeSign rest
      let (ds, left) := Number.takeDigits body
      if ds.isEmpty then (none, cs)
      else (some (if negative then -(Number.ofDigits ds : Int) else Number.ofDigits ds), left)
    else (none, cs)

/-- Reads a number whose text, sign included, begins `whole`. -/
def readNumber (whole : List Char) (negative : Bool) (cs : List Char) : Read Json :=
  match wholeDigits cs with
  | none => .error (.at .value whole)
  | some (ds, left) =>
    let (frac, left) := fraction left
    let (exp, left) := exponent left
    if frac.isEmpty && exp.isNone then
      if Number.maxDigits < ds.length then .error (.number (.tooLong ds.length))
      else
        let n := Number.ofDigits ds
        .ok (.int (if negative then -(n : Int) else n), left)
    else
      let e : Int := exp.getD 0 - frac.length
      .ok (.float (Double.ofDecimal negative (Number.ofDigits (ds ++ frac)) e), left)

/-- Reads a value that is no list and no object. -/
def readScalar (halves : Halves) (cs : List Char) : Read Json :=
  match cs with
  | '"' :: rest => (readString halves cs rest).map fun (s, left) => (.str (.ofCodes s), left)
  | 'n' :: 'u' :: 'l' :: 'l' :: left => .ok (.null, left)
  | 't' :: 'r' :: 'u' :: 'e' :: left => .ok (.bool true, left)
  | 'f' :: 'a' :: 'l' :: 's' :: 'e' :: left => .ok (.bool false, left)
  | 'N' :: 'a' :: 'N' :: left => .ok (.float .nan, left)
  | 'I' :: 'n' :: 'f' :: 'i' :: 'n' :: 'i' :: 't' :: 'y' :: left => .ok (.float (.inf false), left)
  | '-' :: 'I' :: 'n' :: 'f' :: 'i' :: 'n' :: 'i' :: 't' :: 'y' :: left =>
    .ok (.float (.inf true), left)
  | '-' :: rest => readNumber cs true rest
  | _ => readNumber cs false cs

mutual

/-- Reads a value; `fuel` bounds the calls.  Two of them for each character are enough,
since a list reads its first item without taking a character of its own. -/
def readValue (halves : Halves) : Nat → List Char → Read Json
  | 0, cs => .error (.at .value cs)
  | fuel + 1, cs =>
    match cs with
    | [] => .error (.at .value [])
    | c :: rest =>
      if c = '[' then
        match skipSpace rest with
        | ']' :: left => .ok (.arr [], left)
        | body => (readItems halves fuel body).map fun (vs, left) => (.arr vs, left)
      else if c.toNat = 123 then
        match skipSpace rest with
        | [] => .error (.at .name [])
        | d :: left =>
          if d.toNat = 125 then .ok (.obj [], left)
          else (readMembers halves fuel (d :: left)).map fun (ms, left) => (ofMembers ms, left)
      else readScalar halves (c :: rest)

/-- Reads the items of a list from the first one on. -/
def readItems (halves : Halves) : Nat → List Char → Except Failure (List Json × List Char)
  | 0, cs => .error (.at .value cs)
  | fuel + 1, cs => do
    let (v, left) ← readValue halves fuel cs
    match skipSpace left with
    | ']' :: left => return ([v], left)
    | ',' :: left => do
      let (vs, left) ← readItems halves fuel (skipSpace left)
      return (v :: vs, left)
    | left => throw (.at .comma left)

/-- Reads the members of an object from the first one on. -/
def readMembers (halves : Halves) :
    Nat → List Char → Except Failure (List (CodeText × Json) × List Char)
  | 0, cs => .error (.at .value cs)
  | fuel + 1, cs =>
    match cs with
    | '"' :: rest => do
      let (key, left) ← readString halves cs rest
      match skipSpace left with
      | ':' :: left => do
        let (v, left) ← readValue halves fuel (skipSpace left)
        match skipSpace left with
        | [] => throw (.at .comma [])
        | c :: left =>
          if c.toNat = 125 then return ([(.ofCodes key, v)], left)
          else if c = ',' then do
            let (rest, left) ← readMembers halves fuel (skipSpace left)
            return ((.ofCodes key, v) :: rest, left)
          else throw (.at .comma (c :: left))
      | left => throw (.at .colon left)
    | cs => .error (.at .name cs)

end

/-- The line and the column, both from one, of the place before which `before`
stands. -/
def place (before : List Char) : Nat × Nat :=
  (before.count '\n' + 1, (before.reverse.takeWhile (· ≠ '\n')).length + 1)

/-- A failure with its place in the whole text. -/
def Failure.locate (whole : List Char) : Failure → ParseError
  | .at fault left =>
    let n := whole.length - left.length
    let (line, column) := place (whole.take n)
    .malformed fault line column n
  | .number e => .number e

/-- Reads a whole document from its characters and the halves among them. -/
def parseChars (halves : Halves) (cs : List Char) : Except ParseError Json :=
  match readValue halves (2 * cs.length + 2) (skipSpace cs) with
  | .error f => .error (f.locate cs)
  | .ok (v, left) =>
    match skipSpace left with
    | [] => .ok v
    | left => .error ((Failure.at .extra left).locate cs)

/-- Where the halves among code points are. -/
def halvesIn : List Code → Halves
  | [] => []
  | .char _ :: rest => halvesIn rest
  | .half h :: rest => (rest.length, h) :: halvesIn rest

/-- Reads a whole document from its code points. -/
def parseCodes (cs : List Code) : Except ParseError Json :=
  parseChars (halvesIn cs) (cs.map Code.shown)

/-- Reads a whole document; a byte-order mark at the front is refused, since what is a
text already has none. -/
def parse (s : String) : Except ParseError Json :=
  let cs := s.toList
  if cs.head? = some (Char.ofNat 0xFEFF) then .error ((Failure.at .byteMark cs).locate cs)
  else parseChars [] cs

end Json
end RegistryAuth
