/-!
# Base64

Credentials are sent and stored in base64: three bytes as four digits, the last group
filled up with `=`.  `encode` writes it.  Two readers share one machine, which keeps
the bits that no byte has taken yet (`Held`).  The strict one stops at the first
character that is no digit and at anything behind the filling; the lenient one passes
such characters over and stops at the filling.  Neither asks that the bits left over at
the end are zero.
-/

namespace RegistryAuth
namespace Text
namespace Base64

/-- The digit for a number below 64. -/
def digitChar (n : Nat) : Char :=
  if n < 26 then Char.ofNat (65 + n)
  else if n < 52 then Char.ofNat (71 + n)
  else if n < 62 then Char.ofNat (n - 4)
  else if n = 62 then '+' else '/'

/-- The number that a digit stands for. -/
def digit? (c : Char) : Option Nat :=
  let n := c.toNat
  if 65 ≤ n ∧ n ≤ 90 then some (n - 65)
  else if 97 ≤ n ∧ n ≤ 122 then some (n - 71)
  else if 48 ≤ n ∧ n ≤ 57 then some (n + 4)
  else if c = '+' then some 62
  else if c = '/' then some 63
  else none

/-- The digits of `bytes`, with filling. -/
def encode : List UInt8 → List Char
  | [] => []
  | [a] => [digitChar (a.toNat / 4), digitChar (a.toNat % 4 * 16), '=', '=']
  | [a, b] =>
    [digitChar (a.toNat / 4), digitChar (a.toNat % 4 * 16 + b.toNat / 16),
      digitChar (b.toNat % 16 * 4), '=']
  | a :: b :: c :: rest =>
    digitChar (a.toNat / 4) :: digitChar (a.toNat % 4 * 16 + b.toNat / 16) ::
      digitChar (b.toNat % 16 * 4 + c.toNat / 64) :: digitChar (c.toNat % 64) :: encode rest

/-- The bits of the digits read since the last full byte. -/
inductive Held where
  | none
  | six (bits : Nat)
  | four (bits : Nat)
  | two (bits : Nat)
  deriving Repr, DecidableEq

/-- How many `=` fill the group up; more than there can be where none may stand. -/
def Held.filling : Held → Option Nat
  | .four _ => some 2
  | .two _ => some 1
  | _ => Option.none

/-- Takes one more digit: the byte it completes, if any, and the bits that remain. -/
def Held.push : Held → Nat → List UInt8 × Held
  | .none, d => ([], .six d)
  | .six bits, d => ([UInt8.ofNat (bits * 4 + d / 16)], .four (d % 16))
  | .four bits, d => ([UInt8.ofNat (bits * 16 + d / 4)], .two (d % 4))
  | .two bits, d => ([UInt8.ofNat (bits * 64 + d)], .none)

/-- Reads on, with `pads` of the filling of the present group seen; `filled` says
whether any `=` has been seen. -/
def readFrom (strict : Bool) (held : Held) (pads : Nat) (filled : Bool) :
    List Char → Option (List UInt8)
  | [] => if held = .none then some [] else Option.none
  | '=' :: cs =>
    match held.filling with
    | Option.none => readFrom strict held pads true cs
    | some n =>
      if n ≤ pads + 1 then
        if strict && !cs.isEmpty then Option.none else some []
      else readFrom strict held (pads + 1) true cs
  | c :: cs =>
    match digit? c with
    | Option.none => if strict then Option.none else readFrom strict held pads filled cs
    | some d =>
      if strict && filled then Option.none
      else
        let (bytes, next) := held.push d
        (readFrom strict next 0 filled cs).map (bytes ++ ·)

/-- The bytes that `cs` writes; a text that opens with filling writes none. -/
def decodeStrict (cs : List Char) : Option (List UInt8) :=
  if cs.head? = some '=' then Option.none else readFrom true .none 0 false cs

/-- The bytes that the digits among `cs` write. -/
def decodeLenient (cs : List Char) : Option (List UInt8) :=
  readFrom false .none 0 false cs

end Base64
end Text
end RegistryAuth
