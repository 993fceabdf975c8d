/-!
# Names in ASCII

A name of any script can be written in ASCII: its ASCII characters first, then, behind
a hyphen, where the others go and which they are.  Each of them is one number, the
distance from the place and the character before it, in digits of base 36 whose
thresholds follow the size of the last distances (`bias`).

`encode` writes the form and `decode?` reads it.
-/

namespace RegistryAuth
namespace Punycode

/-- The threshold of the digit at a position. -/
def threshold (position bias : Nat) : Nat := min 26 (max 1 (36 * (position + 1) - bias))

/-- Divides a distance by 35 until it is small, and counts how often. -/
def shrink (delta count : Nat) : Nat × Nat :=
  if 455 < delta then shrink (delta / 35) (count + 1) else (delta, count)
termination_by delta
decreasing_by exact Nat.div_lt_self (by omega) (by omega)

/-- The bias behind a distance, when `size` characters are in place. -/
def adapt (delta size : Nat) (isFirst : Bool) : Nat :=
  let halved := if isFirst then delta / 700 else delta / 2
  let (small, count) := shrink (halved + halved / size) 0
  36 * count + 36 * small / (small + 38)

/-- The character of a digit. -/
def digitChar (d : Nat) : Char := if d < 26 then Char.ofNat (97 + d) else Char.ofNat (22 + d)

/-- The digit of a character of either case. -/
def digit? (c : Char) : Option Nat :=
  let n := c.toNat
  if 97 ≤ n ∧ n ≤ 122 then some (n - 97)
  else if 65 ≤ n ∧ n ≤ 90 then some (n - 65)
  else if 48 ≤ n ∧ n ≤ 57 then some (n - 22)
  else none

theorem threshold_pos (position bias : Nat) : 0 < threshold position bias := by
  unfold threshold; omega

theorem threshold_le (position bias : Nat) : threshold position bias ≤ 26 := by
  unfold threshold; omega

/-- The digits of a number, from a position on. -/
def digits (bias position n : Nat) : List Char :=
  let t := threshold position bias
  if n < t then [digitChar n]
  else digitChar (t + (n - t) % (36 - t)) :: digits bias (position + 1) ((n - t) / (36 - t))
termination_by n
decreasing_by
  have hpos := threshold_pos position bias
  have hle := threshold_le position bias
  have h1 : (n - threshold position bias) / (36 - threshold position bias) ≤
      n - threshold position bias := Nat.div_le_self _ _
  omega

/-- What is kept while a name is written: the distance since the last character put in
place, the bias, how many are in place, and the text. -/
structure Writer where
  delta : Nat
  bias : Nat
  placed : Nat
  out : List Char

/-- Writes the places of the character `m`, looking at one character of the name. -/
def Writer.visit (basic m : Nat) (w : Writer) (n : Nat) : Writer :=
  if n < m then { w with delta := w.delta + 1 }
  else if n = m then
    { delta := 0
      bias := adapt w.delta (w.placed + 1) (w.placed = basic)
      placed := w.placed + 1
      out := w.out ++ digits w.bias 0 w.delta }
  else w

/-- Writes the places of the characters `ms` of a name, which are in increasing order;
`last` is the one before them. -/
def Writer.run (name : List Nat) (basic : Nat) : List Nat → Nat → Writer → Writer
  | [], _, w => w
  | m :: ms, last, w =>
    let w := { w with delta := w.delta + (m - last) * (w.placed + 1) }
    let w := name.foldl (Writer.visit basic m) w
    Writer.run name basic ms (m + 1) { w with delta := w.delta + 1 }

/-- Puts a number into a list in increasing order, unless it is there. -/
def insertNew (n : Nat) : List Nat → List Nat
  | [] => [n]
  | m :: ms => if n < m then n :: m :: ms else if n = m then m :: ms else m :: insertNew n ms

/-- The ASCII form of a name. -/
def encode (cs : List Char) : List Char :=
  let basic := cs.filter fun c => c.toNat < 128
  let others := (cs.map Char.toNat).foldl (fun ms n => if n < 128 then ms else insertNew n ms) []
  let w := Writer.run (cs.map Char.toNat) basic.length others 128 ⟨0, 72, basic.length, []⟩
  (if basic.isEmpty then [] else basic ++ ['-']) ++ w.out

/-- Reads a number from its digits: the number and what follows. -/
def readNumber (bias : Nat) : Nat → Nat → Nat → List Char → Option (Nat × List Char)
  | _, _, _, [] => none
  | position, weight, sum, c :: cs => do
    let d ← digit? c
    let t := threshold position bias
    let sum := sum + d * weight
    if d < t then return (sum, cs) else readNumber bias (position + 1) (weight * (36 - t)) sum cs

theorem readNumber_length {bias position weight sum n : Nat} {cs rest : List Char}
    (h : readNumber bias position weight sum cs = some (n, rest)) : rest.length < cs.length := by
  induction cs generalizing position weight sum with
  | nil => simp [readNumber] at h
  | cons c cs ih =>
    simp only [readNumber, Option.bind_eq_bind, Option.bind_eq_some_iff] at h
    obtain ⟨d, -, h⟩ := h
    split at h
    · simp only [Option.pure_def, Option.some.injEq, Prod.mk.injEq] at h
      simp [← h.2]
    · have := ih h
      simp only [List.length_cons]; omega

/-- Puts code points in place: `last` is the code point and `position` the place of the
one before, `base` the name so far. -/
def place (base : List Nat) (last position bias : Nat) (isFirst : Bool) (cs : List Char) :
    Option (List Nat) :=
  match cs with
  | [] => some base
  | c :: cs' =>
    match h : readNumber bias 0 1 0 (c :: cs') with
    | none => none
    | some (delta, rest) =>
      let position := position + delta
      let size := base.length + 1
      let next := last + position / size
      if 0x10FFFF < next then none
      else
        let at' := position % size
        place (base.take at' ++ next :: base.drop at') next (at' + 1)
          (adapt delta size isFirst) false rest
termination_by cs.length
decreasing_by exact readNumber_length h

/-- The code points of the name that an ASCII form stands for; not all of them need be
characters. -/
def decode? (cs : List Char) : Option (List Nat) :=
  let back := cs.reverse
  let tail := (back.takeWhile (· ≠ '-')).reverse
  let base := ((back.dropWhile (· ≠ '-')).drop 1).reverse
  place (base.map Char.toNat) 128 0 72 true tail

end Punycode
end RegistryAuth
