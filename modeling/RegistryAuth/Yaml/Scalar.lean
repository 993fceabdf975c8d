import RegistryAuth.Text.Base64
import RegistryAuth.Unicode.LetterCase
import RegistryAuth.Yaml.Fault
import RegistryAuth.Yaml.Tag

/-!
# Values of scalars

What a scalar with the tag of a flag, a number, a time or bytes stands for.  A tag may
be written on any text, so each of these readers may refuse its text.  Numbers may hold
underscores anywhere, and groups of up to sixty behind colons.
-/

namespace RegistryAuth
namespace Yaml
namespace Scalar

/-- A scalar without a value. -/
def refuseScalar {α : Type} (f : ScalarFault) : Except Fault α := .error (.scalar f)

/-- A flag. -/
def flag (cs : List Char) : Except Fault Bool :=
  let lower := Unicode.lower cs
  let word := String.ofList lower
  if ["yes", "true", "on"].contains word then .ok true
  else if ["no", "false", "off"].contains word then .ok false
  else refuseScalar (.flag lower)

/-- A whole number in some base. -/
def whole (base : Nat) (cs : List Char) : Except Fault Int :=
  (Number.whole base cs).mapError fun e => .scalar (.number e)

/-- The number whose digits in base sixty these are, the last one first. -/
def sixtiesValue (digits : List Int) : Int := digits.foldr (fun d n => d + 60 * n) 0

/-- The digits of a number and whether it is negative; the sign counts where the text
begins with one. -/
def signed? (cs : List Char) : Option (Bool × List Char) :=
  match cs.filter (· ≠ '_') with
  | [] => none
  | '-' :: cs => some (true, cs)
  | '+' :: cs => some (false, cs)
  | cs => some (false, cs)

/-- A whole number. -/
def int (cs : List Char) : Except Fault Int := do
  let some (negative, body) := signed? cs | refuseScalar .emptyNumber
  let n ← match body with
    | [] => refuseScalar .emptyNumber
    | ['0'] => .ok 0
    | '0' :: 'b' :: ds => whole 2 ds
    | '0' :: 'x' :: ds => whole 16 ds
    | '0' :: ds => whole 8 ('0' :: ds)
    | ds =>
      if ds.contains ':' then do
        let parts ← (Text.splitOn ':' ds).mapM (whole 10)
        .ok (sixtiesValue parts.reverse)
      else whole 10 ds
  return if negative then -n else n

/-- A floating-point number without groups. -/
def real (cs : List Char) : Except Fault Double :=
  (Number.real cs).mapError fun e => .scalar (.number e)

/-- Adds up groups, the last one first; `base` is what the present one counts. -/
def sumSixties : List Double → Nat → Double → Except Fault Double
  | [], _, sum => .ok sum
  | d :: ds, base, sum =>
    match Double.ofInt base with
    | .inf _ => refuseScalar .sexagesimalRange
    | b => sumSixties ds (base * 60) (sum.add (d.mul b))

/-- A floating-point number. -/
def float (cs : List Char) : Except Fault Double := do
  let some (negative, body) := signed? (Unicode.lower cs) | refuseScalar .emptyNumber
  let d ←
    if body = ".inf".toList then .ok (Double.inf false)
    else if body = ".nan".toList then return .nan
    else if body.contains ':' then do
      let parts ← (Text.splitOn ':' body).mapM real
      sumSixties parts.reverse 1 (.ofInt 0)
    else real body
  return if negative then d.neg else d

/-- Bytes in base64; characters that are no digits are passed over. -/
def binary (cs : List Char) : Except Fault (List UInt8) :=
  if cs.any fun c => 128 ≤ c.toNat then .error (.value .base64)
  else
    match Text.Base64.decodeLenient cs with
    | some bs => .ok bs
    | none => .error (.value .base64)

/-- Whether a year has a leap day. -/
def isLeap (year : Nat) : Bool := year % 4 = 0 && (year % 100 ≠ 0 || year % 400 = 0)

/-- How many days a month has. -/
def daysIn (year month : Nat) : Nat :=
  if month = 2 then if isLeap year then 29 else 28
  else if [4, 6, 9, 11].contains month then 30 else 31

/-- A part of a time as a number. -/
def part (cs : List Char) : Nat := Number.ofDigits cs

/-- Checks that a time exists: the offset of its zone first, then its parts from the
largest to the smallest. -/
def checkMoment (m : MomentText) : Except MomentFault Unit := do
  if m.time.isSome then
    if let some (negative, hours, minutes) := m.zone then
      let span : Int := 3600 * part hours + 60 * part minutes
      let span := if negative then -span else span
      if span ≤ -86400 ∨ 86400 ≤ span then throw (.offset span)
  let year := part m.year
  let month := part m.month
  let day := part m.day
  if year = 0 then throw (.year year)
  if month < 1 ∨ 12 < month then throw .month
  if day < 1 ∨ daysIn year month < day then throw .day
  if let some (hour, minute, second) := m.time then
    if 23 < part hour then throw .hour
    if 59 < part minute then throw .minute
    if 59 < part second then throw .second

/-- A time; nothing but its existence matters here. -/
def moment (cs : List Char) : Except Fault Unit :=
  match MomentText.parse? cs with
  | none => refuseScalar .notMoment
  | some m => (checkMoment m).mapError fun e => .scalar (.moment e)

end Scalar
end Yaml
end RegistryAuth
