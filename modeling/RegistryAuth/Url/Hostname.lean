import RegistryAuth.Text.Cut
import RegistryAuth.Text.Quoted
import RegistryAuth.Unicode.Composition
import RegistryAuth.Unicode.Direction
import RegistryAuth.Unicode.HostClass
import RegistryAuth.Url.Punycode

/-!
# Names of hosts in every script

A name of a host is a list of labels with dots between them.  A label in another script
travels in an ASCII form behind `xn--`.  `Hostname.toAscii` and `Hostname.toUnicode`
change one into the other; both refuse a label that breaks one of the rules for labels,
which are checked in a fixed order (`checkLabel`): composed form, hyphens, no mark at
the front, only admitted characters and those in the right company, and no forbidden
mixture of directions.
-/

namespace RegistryAuth

/-- Why a name is no name of a host.  Positions count from one; a label is given by its
code points, where not all of them need be characters. -/
inductive HostnameError where
  | emptyDomain
  | longDomain
  | emptyLabel
  | longLabel
  | notComposed
  | hyphenPair
  | hyphenEnd
  | markFirst
  | loneJoiner (code position : Nat) (label : List Nat)
  | strangeNeighbour (code position : Nat) (label : List Nat)
  | wrongCompany (code position : Nat) (label : List Nat)
  | notAllowed (code position : Nat) (label : List Nat)
  | noDirection (position : Nat) (label : List Char)
  | firstDirection (label : List Char)
  | notLeftward (position : Nat)
  | notRightward (position : Nat)
  | mixedNumbers
  | endDirection
  | emptyForm
  | formHyphen
  | badForm
  | otherForm
  deriving Repr, DecidableEq

namespace HostnameError

/-- A code point with at least four hexadecimal digits. -/
def codeText (n : Nat) : String :=
  let width := if n < 0x10000 then 4 else if n < 0x100000 then 5 else 6
  "U+" ++ String.ofList ((Text.hexDigits width n).map Char.toUpper)

/-- The words for the failure. -/
def message : HostnameError → String
  | .emptyDomain => "Empty domain"
  | .longDomain => "Domain too long"
  | .emptyLabel => "Empty Label"
  | .longLabel => "Label too long"
  | .notComposed => "Label must be in Normalization Form C"
  | .hyphenPair => "Label has disallowed hyphens in 3rd and 4th position"
  | .hyphenEnd => "Label must not start or end with a hyphen"
  | .markFirst => "Label begins with an illegal combining character"
  | .loneJoiner code position label =>
    "Joiner " ++ codeText code ++ " not allowed at position " ++ toString position ++ " in " ++
      String.ofList (Text.quotedCodes label)
  | .strangeNeighbour code position label =>
    "Unknown codepoint adjacent to joiner " ++ codeText code ++ " at position " ++
      toString position ++ " in " ++ String.ofList (Text.quotedCodes label)
  | .wrongCompany code position label =>
    "Codepoint " ++ codeText code ++ " not allowed at position " ++ toString position ++ " in " ++
      String.ofList (Text.quotedCodes label)
  | .notAllowed code position label =>
    "Codepoint " ++ codeText code ++ " at position " ++ toString position ++ " of " ++
      String.ofList (Text.quotedCodes label) ++ " not allowed"
  | .noDirection position label =>
    "Unknown directionality in label " ++ String.ofList (Text.quoted label) ++ " at position " ++
      toString position
  | .firstDirection label =>
    "First codepoint in label " ++ String.ofList (Text.quoted label) ++
      " must be directionality L, R or AL"
  | .notLeftward position =>
    "Invalid direction for codepoint at position " ++ toString position ++
      " in a right-to-left label"
  | .notRightward position =>
    "Invalid direction for codepoint at position " ++ toString position ++
      " in a left-to-right label"
  | .mixedNumbers => "Can not mix numeral types in a right-to-left label"
  | .endDirection => "Label ends with illegal codepoint directionality"
  | .emptyForm => "Malformed A-label, no Punycode eligible content found"
  | .formHyphen => "A-label must not end with a hyphen"
  | .badForm => "Invalid A-label"
  | .otherForm => "A-label is not the canonical Punycode encoding of its U-label"

end HostnameError

namespace Hostname
open Unicode

/-- The longest label. -/
def maxLabel : Nat := 63

/-- The longest name, a dot at its end included. -/
def maxName : Nat := 254

/-- The longest text that is looked at. -/
def maxInput : Nat := 1024

/-- Whether all of `cs` is ASCII. -/
def isAscii (cs : List Char) : Bool := cs.all fun c => c.toNat < 128

/-- How a letter joins its neighbours, as the table of joining types says. -/
def joining (c : Char) : Int := joiningRuns.valueAt 0 c

/-- Whether a letter that joins as `wanted` or on both sides is the first in a row of
letters, those that join nothing passed over. -/
def joinsNext (wanted : Int) (cs : List Char) : Bool :=
  match cs.dropWhile fun c => joining c = 1 with
  | c :: _ => joining c = wanted || joining c = 4
  | [] => false

/-- Whether the last of the characters, given in reverse, suppresses a vowel; this is not
known of a character without a name. -/
def behindVirama? (back : List Char) : Option Bool :=
  match back with
  | c :: _ => if markOrder c.toNat = 0 && !isNamed c then none else some (markOrder c.toNat = 9)
  | [] => some false

/-- Whether a joiner may stand between `back`, given in reverse, and `rest`, if that is
known. -/
def joinerAllowed? (c : Char) (back rest : List Char) : Option Bool :=
  (behindVirama? back).map fun isBehind =>
    isBehind || (c.toNat = 0x200C && joinsNext 2 back && joinsNext 3 rest)

/-- Whether some character has a code between two others. -/
def hasBetween (lo hi : Nat) (cs : List Char) : Bool :=
  cs.any fun c => lo ≤ c.toNat && c.toNat ≤ hi

/-- Whether a sign may stand between `back`, given in reverse, and `rest`. -/
def companyAllowed (c : Char) (back rest : List Char) : Bool :=
  let n := c.toNat
  let whole := back.reverse ++ c :: rest
  if n = 0xB7 then back.head? = some 'l' && rest.head? = some 'l'
  else if n = 0x375 then (rest.head?.map greekRuns.holds).getD false
  else if n = 0x5F3 ∨ n = 0x5F4 then (back.head?.map hebrewRuns.holds).getD false
  else if n = 0x30FB then
    whole.any fun c => c.toNat ≠ 0x30FB &&
      (hiraganaRuns.holds c || katakanaRuns.holds c || hanRuns.holds c)
  else if 0x660 ≤ n ∧ n ≤ 0x669 then !hasBetween 0x6F0 0x6F9 whole
  else if 0x6F0 ≤ n ∧ n ≤ 0x6F9 then !hasBetween 0x660 0x669 whole
  else false

/-- Checks the characters of a label with the code points `label` from `position` on;
`back` are those before, in reverse. -/
def checkChars (label : List Nat) : Nat → List Char → List Char → Except HostnameError Unit
  | _, _, [] => .ok ()
  | position, back, c :: rest =>
    if hostRuns.holds c then checkChars label (position + 1) (c :: back) rest
    else if joinerRuns.holds c then
      match joinerAllowed? c back rest with
      | some true => checkChars label (position + 1) (c :: back) rest
      | some false => .error (.loneJoiner c.toNat position label)
      | none => .error (.strangeNeighbour c.toNat position label)
    else if companyRuns.holds c then
      if companyAllowed c back rest then checkChars label (position + 1) (c :: back) rest
      else .error (.wrongCompany c.toNat position label)
    else .error (.notAllowed (label.getD (position - 1) 0) position label)

/-- Whether a direction makes its label one that is written to the left. -/
def isLeftward (d : Direction) : Bool := d = .right || d = .arabicLetter || d = .arabicNumber

/-- Whether a direction may stand among those written either way. -/
def isNeutral (d : Direction) : Bool :=
  d = .europeanNumber || d = .europeanSeparator || d = .commonSeparator ||
    d = .europeanTerminator || d = .otherNeutral || d = .boundaryNeutral || d = .nonspacingMark

/-- Checks a label that is written to the left, from `position` on: `ends` says whether
it may end here, and `numbers` which numbers it holds. -/
def checkLeftward : Nat → Bool → Option Direction → List Direction → Except HostnameError Unit
  | _, ends, _, [] => if ends then .ok () else .error .endDirection
  | position, ends, numbers, d :: ds =>
    if !(isLeftward d || isNeutral d) then .error (.notLeftward position)
    else
      let ends :=
        if isLeftward d || d = .europeanNumber then true
        else if d = .nonspacingMark then ends else false
      if d = .arabicNumber || d = .europeanNumber then
        match numbers with
        | none => checkLeftward (position + 1) ends (some d) ds
        | some d' =>
          if d' = d then checkLeftward (position + 1) ends numbers ds else .error .mixedNumbers
      else checkLeftward (position + 1) ends numbers ds

/-- Checks a label that is written to the right, from `position` on. -/
def checkRightward : Nat → Bool → List Direction → Except HostnameError Unit
  | _, ends, [] => if ends then .ok () else .error .endDirection
  | position, ends, d :: ds =>
    if !(d = .left || isNeutral d) then .error (.notRightward position)
    else
      let ends :=
        if d = .left || d = .europeanNumber then true
        else if d = .nonspacingMark then ends else false
      checkRightward (position + 1) ends ds

/-- The directions of the characters of a label. -/
def directions (label : List Char) : Nat → List Char → Except HostnameError (List Direction)
  | _, [] => .ok []
  | position, c :: cs =>
    match direction? c with
    | none => .error (.noDirection position label)
    | some d => (directions label (position + 1) cs).map (d :: ·)

/-- Checks the directions of a label, if any of its characters is written to the
left. -/
def checkDirections (label : List Char) : Except HostnameError Unit := do
  let ds ← directions label 1 label
  if !ds.any isLeftward then return
  match ds with
  | [] => return
  | d :: _ =>
    if d = .right || d = .arabicLetter then checkLeftward 1 false none ds
    else if d = .left then checkRightward 1 false ds
    else throw (.firstDirection label)

/-- The character of a code point; one that stands for no character and is not admitted,
where there is none. -/
def charOf (n : Nat) : Char := if n.isValidChar then Char.ofNat n else Char.ofNat 0xFFFD

/-- Checks a label that is given by its code points. -/
def checkCodes (codes : List Nat) : Except HostnameError Unit := do
  let label := codes.map charOf
  if maxInput < label.length then throw .longLabel
  if label.isEmpty then throw .emptyLabel
  if maxName < label.length then throw .longLabel
  if !isComposed label then throw .notComposed
  if (label.drop 2).take 2 = ['-', '-'] then throw .hyphenPair
  if label.head? = some '-' ∨ label.getLast? = some '-' then throw .hyphenEnd
  if (label.head?.map markRuns.holds).getD false then throw .markFirst
  checkChars codes 1 [] label
  checkDirections label

/-- Checks a label. -/
def checkLabel (label : List Char) : Except HostnameError Unit := checkCodes (label.map Char.toNat)

/-- What the ASCII form of a label begins with. -/
def mark : List Char := "xn--".toList

/-- The label that an ASCII label, of any case, stands for.  A form that reads as a label
but is not what that label is written as is refused. -/
def labelToUnicode (label : List Char) : Except HostnameError (List Char) := do
  if maxInput < label.length then throw .longLabel
  if !isAscii label then
    checkLabel label
    return label
  let lower := label.map Char.toLower
  match Text.dropFront? mark lower with
  | none =>
    checkLabel lower
    return lower
  | some form =>
    if form.isEmpty then throw .emptyForm
    if form.getLast? = some '-' then throw .formHyphen
    match Punycode.decode? form with
    | none => throw .badForm
    | some codes =>
      checkCodes codes
      let label := codes.map charOf
      if Punycode.encode label ≠ form then throw .otherForm
      return label

/-- The ASCII label for a label. -/
def labelToAscii (label : List Char) : Except HostnameError (List Char) := do
  if maxInput < label.length then throw .longLabel
  if isAscii label then
    let _ ← labelToUnicode label
    if maxLabel < label.length then throw .longLabel
    return label
  checkLabel label
  let form := mark ++ Punycode.encode label
  if maxLabel < form.length then throw .longLabel
  return form

/-- Whether `c` is one of the dots. -/
def isDot (c : Char) : Bool :=
  c = '.' || c.toNat = 0x3002 || c.toNat = 0xFF0E || c.toNat = 0xFF61

/-- The labels of a name, and whether a dot stands at its end. -/
def labels (cs : List Char) : List (List Char) × Bool :=
  let parts := Text.splitOn '.' (cs.map fun c => if isDot c then '.' else c)
  if parts.getLast? = some [] then (parts.dropLast, true) else (parts, false)

/-- Changes a name label by label. -/
def changeLabels (change : List Char → Except HostnameError (List Char)) (cs : List Char) :
    Except HostnameError (List Char × Bool) := do
  if maxInput < cs.length ∨ maxName < cs.length then throw .longDomain
  if cs.isEmpty then throw .emptyDomain
  let (parts, dotted) := labels cs
  let changed ← parts.mapM change
  return (List.intercalate ['.'] (changed ++ if dotted then [[]] else []), dotted)

/-- A name in ASCII. -/
def toAscii (cs : List Char) : Except HostnameError (List Char) := do
  let (name, dotted) ← changeLabels labelToAscii cs
  if (if dotted then maxName else maxName - 1) < name.length then throw .longDomain
  return name

/-- A name in the scripts of its labels. -/
def toUnicode (cs : List Char) : Except HostnameError (List Char) :=
  (changeLabels labelToUnicode cs).map Prod.fst

end Hostname
end RegistryAuth
