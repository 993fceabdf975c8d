import RegistryAuth.Number.Double

/-!
# The shortest decimal that reads back

A floating-point number is written with the fewest digits from which it can be read
again.  All real numbers of an interval around `m * 2 ^ e` round to it; the ends
belong to the interval when `m` is even.  For one digit, two digits, and so on, only
the two neighbours of the number on that decimal grid can lie in the interval, and the
nearer of them is taken.
-/

namespace RegistryAuth

/-- A decimal number `digits * 10 ^ exponent`. -/
structure Decimal where
  digits : Nat
  exponent : Int
  deriving Repr, DecidableEq, Inhabited

namespace Decimal

/-- The quotient `num / den` of positive numbers. -/
structure Ratio where
  num : Nat
  den : Nat

/-- `m * 2 ^ e`. -/
def Ratio.ofBinary (m : Nat) (e : Int) : Ratio :=
  if e < 0 then ⟨m, Nat.pow 2 (-e).toNat⟩ else ⟨m * Nat.pow 2 e.toNat, 1⟩

/-- `d * 10 ^ e`. -/
def Ratio.ofDecimal (d : Nat) (e : Int) : Ratio :=
  if e < 0 then ⟨d, Nat.pow 10 (-e).toNat⟩ else ⟨d * Nat.pow 10 e.toNat, 1⟩

def Ratio.lt (a b : Ratio) : Bool := a.num * b.den < b.num * a.den

def Ratio.le (a b : Ratio) : Bool := a.num * b.den ≤ b.num * a.den

/-- How many decimal digits a number has. -/
def width (n : Nat) : Nat := (Nat.toDigits 10 n).length

/-- The `p` with `10 ^ p ≤ r < 10 ^ (p + 1)`. -/
def Ratio.magnitude (r : Ratio) : Int :=
  if r.den ≤ r.num then (width (r.num / r.den) : Int) - 1
  else
    let w := width (r.den / r.num)
    if r.den = r.num * Nat.pow 10 (w - 1) then 1 - (w : Int) else - (w : Int)

/-- The numbers that round to `m * 2 ^ e`: the lower and the upper end, and whether the
ends belong to them.  Below a power of two the neighbours are twice as dense. -/
def interval (m : Nat) (e : Int) : Ratio × Ratio × Bool :=
  let upper := Ratio.ofBinary (2 * m + 1) (e - 1)
  let lower :=
    if m = Nat.pow 2 52 ∧ -1074 < e then Ratio.ofBinary (4 * m - 1) (e - 2)
    else Ratio.ofBinary (2 * m - 1) (e - 1)
  (lower, upper, m % 2 = 0)

/-- Whether `r` lies in the interval. -/
def within (i : Ratio × Ratio × Bool) (r : Ratio) : Bool :=
  if i.2.2 then i.1.le r && r.le i.2.1 else i.1.lt r && r.lt i.2.1

/-- The distance of two ratios, as a ratio. -/
def distance (a b : Ratio) : Ratio :=
  ⟨max (a.num * b.den) (b.num * a.den) - min (a.num * b.den) (b.num * a.den), a.den * b.den⟩

/-- Tries `n`, `n + 1`, … digits, at most `left + 1` times. -/
def search (value : Ratio) (i : Ratio × Ratio × Bool) (p : Int) : Nat → Nat → Decimal
  | n, left =>
    let e := p + 1 - (n : Int)
    let grid := Ratio.ofDecimal 1 e
    let low := (value.num * grid.den) / (value.den * grid.num)
    let a := Ratio.ofDecimal low e
    let b := Ratio.ofDecimal (low + 1) e
    let inA := low != 0 && within i a
    let inB := within i b
    let pick : Option Nat :=
      if inA && inB then
        if (distance a value).lt (distance b value) then some low
        else if (distance b value).lt (distance a value) then some (low + 1)
        else if low % 2 = 0 then some low else some (low + 1)
      else if inA then some low
      else if inB then some (low + 1)
      else none
    match pick, left with
    | some d, _ => ⟨d, e⟩
    | none, 0 => ⟨low, e⟩
    | none, left + 1 => search value i p (n + 1) left

/-- Takes zeros off the end of the digits; at most `left` of them. -/
def strip : Decimal → Nat → Decimal
  | d, 0 => d
  | d, left + 1 =>
    if d.digits ≠ 0 ∧ d.digits % 10 = 0 then strip ⟨d.digits / 10, d.exponent + 1⟩ left else d

/-- The shortest decimal that reads back as `m * 2 ^ e`, for `m` not zero. -/
def shortest (m : Nat) (e : Int) : Decimal :=
  let value := Ratio.ofBinary m e
  strip (search value (interval m e) value.magnitude 1 16) 17

end Decimal
end RegistryAuth
