import RegistryAuth.Unicode.Runs

/-!
# Digits of every script

A port, a timeout and a whole number may be written with the decimal digits of any
script.  A few other characters, superscripts among them, count as digits without
having a decimal value: a text of digits need not be a number.
-/

namespace RegistryAuth
namespace Unicode

/-- The decimal digits, one run of ten for each script. -/
def decimalRuns : Runs := Runs.ofText "
  30.9 627.9 87.9 C7.9 19D.9 77.9 77.9 77.9 77.9 77.9 77.9 77.9 77.9 77.9 61.9 77.9 47.9 117.9
  47.9 747.9 27.9 12D.9 81.9 A7.9 7.9 B7.9 57.9 87.9 7.9 89C7.9 2A7.9 27.9 C7.9 17.9 57.9 197.9
  5317.9 587.9 887.9 32D.9 81.9 3D.9 91.9 117.9 157.9 77.9 177.9 67.9 67.9 1A7.9 67.9 2F7.9 F7.9
  47.9 4CB7.9 57.9 87.9 6C75.9 1.9 1.9 1.9 1.9 941.9 1A7.9 657.9 1297.9"

/-- Digits that are no decimal digits: superscripts, circled digits and the like. -/
def otherDigitRuns : Runs := Runs.ofText "
  B2.1 6 12B0.8 669 696 4.5 7.9 3D7.8 C.8 C.8 5A B.8 2 277.8 2.8 2.8 E2AE.3 41D.8 1EA.8 E0A6.A"

/-- The value of a decimal digit of any script. -/
def decimalValue? (c : Char) : Option Nat :=
  let n := c.toNat
  if n < 128 then
    if 48 ≤ n ∧ n ≤ 57 then some (n - 48) else none
  else (decimalRuns.find? n).map fun run => n - run.first

/-- Whether `c` counts as a digit, with or without a decimal value. -/
def isDigit (c : Char) : Bool :=
  if c.toNat < 128 then c.isDigit
  else (decimalRuns.find? c.toNat).isSome || otherDigitRuns.holds c

end Unicode
end RegistryAuth
