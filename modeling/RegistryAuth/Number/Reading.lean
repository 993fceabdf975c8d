import RegistryAuth.Number.Written
import RegistryAuth.Text.Blank
import RegistryAuth.Text.Quoted
import RegistryAuth.Unicode.Digit

/-!
# Reading numbers

Ports, timeouts and plain values of a document are texts that are read as numbers.
Digits of every script count, blanks around the number are passed over, and single
underscores may stand between digits.  A whole number in a base that is no power of
two may have at most 4300 digits.
-/

namespace RegistryAuth

/-- Why a text is no number. -/
inductive NumberError where
  | notWhole (base : Nat) (text : List Char)
  | notReal (text : List Char)
  | tooLong (digits : Nat)
  deriving Repr, DecidableEq

/-- The words for the failure; a text that is no whole number is shown up to 200
characters. -/
def NumberError.message : NumberError → String
  | .notWhole base text =>
    "invalid literal for int() with base " ++ toString base ++ ": " ++
      String.ofList ((Text.quoted text).take 200)
  | .notReal text => "could not convert string to float: " ++ String.ofList (Text.quoted text)
  | .tooLong digits =>
    "Exceeds the limit (4300 digits) for integer string conversion: value has " ++
      toString digits ++ " digits; use sys.set_int_max_str_digits() to increase the limit"

namespace Number

/-- The blanks that ASCII has for the layout of a line. -/
def isLayout (c : Char) : Bool := c = ' ' || (9 ≤ c.toNat && c.toNat ≤ 13)

/-- The text with digits and blanks of other scripts in ASCII; what is neither becomes
`?`, which no number holds. -/
def toAscii (cs : List Char) : List Char :=
  if cs.all fun c => c.toNat < 128 then cs
  else cs.map fun c =>
    if c.toNat < 128 then c
    else if Text.isBlank c then ' '
    else match Unicode.decimalValue? c with
      | some d => Char.ofNat (48 + d)
      | none => '?'

/-- The value of a digit in bases up to 36. -/
def digitValue? (c : Char) : Option Nat :=
  let n := c.toNat
  if 48 ≤ n ∧ n ≤ 57 then some (n - 48)
  else if 97 ≤ n ∧ n ≤ 122 then some (n - 87)
  else if 65 ≤ n ∧ n ≤ 90 then some (n - 55)
  else none

/-- What a run of digits amounts to. -/
structure DigitRun where
  value : Nat
  count : Nat
  rest : List Char

/-- Reads digits of a base with single underscores between them; `afterDigit` says
whether an underscore may stand here.  Two underscores together, or one at the end,
make the run invalid. -/
def digitRun? (base : Nat) : Bool → Nat → Nat → List Char → Option DigitRun
  | afterDigit, value, count, c :: cs =>
    if c = '_' then if afterDigit then digitRun? base false value count cs else none
    else
      match digitValue? c with
      | some d =>
        if d < base then digitRun? base true (value * base + d) (count + 1) cs
        else if afterDigit || count = 0 then some ⟨value, count, c :: cs⟩ else none
      | none => if afterDigit || count = 0 then some ⟨value, count, c :: cs⟩ else none
  | afterDigit, value, count, [] =>
    if afterDigit || count = 0 then some ⟨value, count, []⟩ else none

/-- The sign at the front and what follows it. -/
def takeSign : List Char → Bool × List Char
  | '-' :: cs => (true, cs)
  | '+' :: cs => (false, cs)
  | cs => (false, cs)

/-- Takes the mark of a base off, `0x`, `0o` or `0b`, with one underscore behind it. -/
def dropMark (base : Nat) : List Char → List Char
  | '0' :: m :: cs =>
    let mark := m.toLower
    if (base = 16 ∧ mark = 'x') ∨ (base = 8 ∧ mark = 'o') ∨ (base = 2 ∧ mark = 'b') then
      match cs with
      | '_' :: cs => cs
      | cs => cs
    else '0' :: m :: cs
  | cs => cs

/-- The most digits of a whole number. -/
def maxDigits : Nat := 4300

/-- Whether texts in this base are free of the limit on digits. -/
def unlimited (base : Nat) : Bool := base = 2 || base = 4 || base = 8 || base = 16 || base = 32

/-- The whole number that `cs` writes in `base`. -/
def whole (base : Nat) (cs : List Char) : Except NumberError Int :=
  let fault : Except NumberError Int := .error (.notWhole base cs)
  let (negative, body) := takeSign ((toAscii cs).dropWhile isLayout)
  let body := dropMark base body
  match digitRun? base false 0 0 body with
  | none => fault
  | some run =>
    if !unlimited base && maxDigits < run.count then .error (.tooLong run.count)
    else if run.count = 0 || !(run.rest.all isLayout) then fault
    else .ok (if negative then -(run.value : Int) else run.value)

/-- The text without the underscores between digits; none where an underscore stands
elsewhere. -/
def dropUnderscores : Char → List Char → Option (List Char)
  | before, [] => if before = '_' then none else some []
  | before, c :: cs =>
    if c = '_' then if before.isDigit then dropUnderscores c cs else none
    else if before = '_' && !c.isDigit then none
    else (dropUnderscores c cs).map (c :: ·)

/-- The digits at the front and what follows. -/
def takeDigits (cs : List Char) : List Char × List Char :=
  (cs.takeWhile Char.isDigit, cs.dropWhile Char.isDigit)

/-- The number that ASCII digits write. -/
def ofDigits (cs : List Char) : Nat := cs.foldl (fun n c => 10 * n + (c.toNat - 48)) 0

/-- The exponent behind the letter `e`, and nothing else; zero where there is none. -/
def exponent? : List Char → Option Int
  | [] => some 0
  | c :: cs =>
    if c.toLower = 'e' then
      let (negative, ds) := takeSign cs
      if ds.isEmpty || !ds.all Char.isDigit then none
      else some (if negative then -(ofDigits ds : Int) else ofDigits ds)
    else none

/-- The number that a plain decimal with fraction and exponent writes. -/
def plainReal? (negative : Bool) (cs : List Char) : Option Double :=
  let (before, rest) := takeDigits cs
  let (after, rest) := match rest with
    | '.' :: rest => takeDigits rest
    | rest => ([], rest)
  if before.isEmpty && after.isEmpty then none
  else (exponent? rest).map fun e =>
    Double.ofDecimal negative (ofDigits (before ++ after)) (e - after.length)

/-- The floating-point number that `cs` writes. -/
def real (cs : List Char) : Except NumberError Double :=
  let ascii := toAscii cs
  let joined := if ascii.contains '_' then dropUnderscores ' ' ascii else some ascii
  let read : Option Double := joined.bind fun text =>
    let (negative, body) := takeSign (Text.trimBoth isLayout text)
    let word := String.ofList (body.map Char.toLower)
    if word = "inf" ∨ word = "infinity" then some (.inf negative)
    else if word = "nan" then some .nan
    else plainReal? negative body
  match read with
  | some d => .ok d
  | none => .error (.notReal cs)

end Number
end RegistryAuth
