import RegistryAuth.Number.Shortest

/-!
# Numbers in messages

How a number is written where it becomes part of a text: a whole number in decimal, a
floating-point number with the fewest digits that read back, positional from `0.0001`
up to sixteen digits before the point and with an exponent of at least two digits
beyond that.
-/

namespace RegistryAuth

/-- The decimal digits of a number. -/
def natText (n : Nat) : List Char := Nat.toDigits 10 n

/-- A whole number in decimal. -/
def intText (i : Int) : List Char :=
  if i < 0 then '-' :: natText i.natAbs else natText i.natAbs

namespace Decimal

/-- The digits with the point behind the first `point` of them; zeros fill up on either
side, and at least one digit stands behind the point. -/
def positional (digits : List Char) (point : Int) : List Char :=
  if point ≤ 0 then ['0', '.'] ++ List.replicate (-point).toNat '0' ++ digits
  else
    let n := point.toNat
    if digits.length ≤ n then
      digits ++ List.replicate (n - digits.length) '0' ++ ['.', '0']
    else digits.take n ++ ['.'] ++ digits.drop n

/-- The digits with an exponent: one digit before the point, and no point where no
digit follows it. -/
def exponential (digits : List Char) (point : Int) : List Char :=
  let e := point - 1
  let expDigits := natText e.natAbs
  let expText := (if e < 0 then ['-'] else ['+']) ++
    (if expDigits.length < 2 then ['0'] else []) ++ expDigits
  let mantissa := match digits with
    | [d] => [d]
    | d :: ds => d :: '.' :: ds
    | [] => ['0']
  mantissa ++ ['e'] ++ expText

/-- The text of a decimal number: positional where the point falls behind at most
sixteen digits and before at most three zeros. -/
def text (d : Decimal) : List Char :=
  let digits := natText d.digits
  let point : Int := (digits.length : Int) + d.exponent
  if -4 < point ∧ point ≤ 16 then positional digits point else exponential digits point

end Decimal

/-- The text of a floating-point number; `nanWord` and `infWord` are the words for
what is no number and for infinity. -/
def Double.textWith (nanWord infWord : String) : Double → List Char
  | .nan => nanWord.toList
  | .inf negative => (if negative then ['-'] else []) ++ infWord.toList
  | .finite negative m e =>
    (if negative then ['-'] else []) ++
      (if m = 0 then ['0', '.', '0'] else (Decimal.shortest m e).text)

/-- The text of a floating-point number in a message. -/
def Double.text (d : Double) : List Char := d.textWith "nan" "inf"

end RegistryAuth
