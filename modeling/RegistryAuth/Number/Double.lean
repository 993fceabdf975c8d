/-!
# Binary floating-point numbers

Documents, options and answers hold numbers with a fraction.  They are kept with 53
significant bits and an exponent of two between -1074 and 971; a decimal number stands
for the nearest of these, and of two equally near ones for the one whose last bit is
zero.  All of this is done in whole numbers, so that the rounding is part of the
definitions and not of a machine.
-/

namespace RegistryAuth

/-- A floating-point number: `finite negative m e` is `m * 2 ^ e` with its sign. -/
inductive Double where
  | nan
  | inf (negative : Bool)
  | finite (negative : Bool) (mantissa : Nat) (exponent : Int)
  deriving Repr, DecidableEq, Inhabited

namespace Double

/-- Zero with a sign. -/
def zero (negative : Bool) : Double := .finite negative 0 (-1074)

/-- The quotient rounded to the nearest whole number, a half to the even neighbour. -/
def roundDiv (num den : Nat) : Nat :=
  let q := num / den
  let r := num % den
  if 2 * r < den then q
  else if den < 2 * r then q + 1
  else if q % 2 = 0 then q else q + 1

/-- `num / den / 2 ^ e` as a quotient of whole numbers. -/
def scaled (num den : Nat) (e : Int) : Nat × Nat :=
  if e < 0 then (num * Nat.pow 2 (-e).toNat, den) else (num, den * Nat.pow 2 e.toNat)

/-- The number nearest to `num / den`, where `den` is not zero. -/
def ofRatio (negative : Bool) (num den : Nat) : Double :=
  if num = 0 then zero negative
  else
    let guess : Int := max (-1074) ((Nat.log2 num : Int) - (Nat.log2 den : Int) - 53)
    let (n, d) := scaled num den guess
    let e : Int := if Nat.pow 2 53 ≤ n / d then guess + 1 else guess
    let (n, d) := scaled num den e
    let m := roundDiv n d
    let (m, e) := if m = Nat.pow 2 53 then (Nat.pow 2 52, e + 1) else (m, e)
    if 971 < e then .inf negative else .finite negative m e

/-- The number nearest to `digits * 10 ^ e`.  Beyond the range the answer is plain, and
the power is not computed. -/
def ofDecimal (negative : Bool) (digits : Nat) (e : Int) : Double :=
  if digits = 0 then zero negative
  else
    let width : Int := (Nat.log2 digits : Int) * 3 / 10
    if 400 < e + width then .inf negative
    else if e + width < -450 then zero negative
    else if e < 0 then ofRatio negative digits (Nat.pow 10 (-e).toNat)
    else ofRatio negative (digits * Nat.pow 10 e.toNat) 1

/-- The number nearest to a whole number. -/
def ofInt (i : Int) : Double := ofRatio (i < 0) i.natAbs 1

/-- The nearest to `i * 2 ^ e`. -/
def ofScaledInt (i : Int) (e : Int) : Double :=
  if e < 0 then ofRatio (i < 0) i.natAbs (Nat.pow 2 (-e).toNat)
  else ofRatio (i < 0) (i.natAbs * Nat.pow 2 e.toNat) 1

/-- The mantissa with its sign. -/
def signed (negative : Bool) (m : Nat) : Int := if negative then -(m : Int) else m

/-- The sum, rounded. -/
def add : Double → Double → Double
  | .nan, _ => .nan
  | _, .nan => .nan
  | .inf a, .inf b => if a = b then .inf a else .nan
  | .inf a, _ => .inf a
  | _, .inf b => .inf b
  | .finite s m e, .finite s' m' e' =>
    let low := min e e'
    ofScaledInt
      (signed s (m * Nat.pow 2 (e - low).toNat) + signed s' (m' * Nat.pow 2 (e' - low).toNat)) low

/-- The product, rounded. -/
def mul : Double → Double → Double
  | .nan, _ => .nan
  | _, .nan => .nan
  | .inf a, .inf b => .inf (a != b)
  | .inf a, .finite s m _ => if m = 0 then .nan else .inf (a != s)
  | .finite s m _, .inf b => if m = 0 then .nan else .inf (s != b)
  | .finite s m e, .finite s' m' e' => ofScaledInt (signed s m * signed s' m') (e + e')

/-- The number with the other sign. -/
def neg : Double → Double
  | .nan => .nan
  | .inf s => .inf (!s)
  | .finite s m e => .finite (!s) m e

/-- Whether the number is zero, of either sign. -/
def isZero : Double → Bool
  | .finite _ m _ => m = 0
  | _ => false

/-- The whole number this is, if it is one. -/
def toInt? : Double → Option Int
  | .finite s m e =>
    if 0 ≤ e then some (signed s (m * Nat.pow 2 e.toNat))
    else
      let unit := Nat.pow 2 (-e).toNat
      if m % unit = 0 then some (signed s (m / unit)) else none
  | _ => none

end Double
end RegistryAuth
