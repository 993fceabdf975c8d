import RegistryAuth.Text.Cut

/-!
# Properties of code points as runs

A property of characters is a function on code points that is constant on a few
hundred or thousand runs of neighbours.  A table writes the runs in increasing
order, one word each: how far the run starts beyond the end of the last one, how
many further code points it holds, and what the property says there.  All three are
hexadecimal, the last may carry a minus sign written `m`, and both a length of zero
and a value of zero may be left out.

`Runs.find?` looks a code point up by halving.
-/

namespace RegistryAuth
namespace Unicode

/-- Neighbouring code points on which a property has one value. -/
structure Run where
  first : Nat
  last : Nat
  value : Int
  deriving Repr, DecidableEq, Inhabited

/-- A property of code points: its runs, in increasing order. -/
abbrev Runs := Array Run

/-- The value of a hexadecimal digit of either case. -/
def hexDigit? (c : Char) : Option Nat :=
  let n := c.toNat
  if 48 ≤ n ∧ n ≤ 57 then some (n - 48)
  else if 65 ≤ n ∧ n ≤ 70 then some (n - 55)
  else if 97 ≤ n ∧ n ≤ 102 then some (n - 87)
  else none

/-- The number that hexadecimal digits write; other characters are passed over. -/
def hexNat (cs : List Char) : Nat :=
  cs.foldl (fun n c => match hexDigit? c with
    | some d => 16 * n + d
    | none => n) 0

/-- A hexadecimal number whose minus sign is written `m`. -/
def hexInt : List Char → Int
  | 'm' :: cs => - (hexNat cs : Int)
  | cs => (hexNat cs : Int)

/-- Reads one word of a table: the run it stands for, given where the last run
ended. -/
def Run.ofWord (lastEnd : Nat) (word : List Char) : Run :=
  match Text.splitOn '.' word with
  | [gap] => ⟨lastEnd + hexNat gap, lastEnd + hexNat gap, 0⟩
  | [gap, more] => ⟨lastEnd + hexNat gap, lastEnd + hexNat gap + hexNat more, 0⟩
  | gap :: more :: value :: _ =>
    ⟨lastEnd + hexNat gap, lastEnd + hexNat gap + hexNat more, hexInt value⟩
  | [] => ⟨lastEnd, lastEnd, 0⟩

/-- Reads a table: words separated by blanks or line ends. -/
def Runs.ofText (text : String) : Runs :=
  let words := (Text.splitOn ' ' (text.toList.map fun c => if c = '\n' then ' ' else c)).filter
    fun w => !w.isEmpty
  (words.foldl (fun (st : Nat × Runs) word =>
    let run := Run.ofWord st.1 word
    (run.last, st.2.push run)) (0, #[])).2

/-- The run that holds the code point `n`, among those at the positions from `lo` up
to, not including, `hi`. -/
def Runs.search (runs : Runs) (n lo hi : Nat) : Option Run :=
  if _h : lo < hi then
    let mid := (lo + hi) / 2
    match runs[mid]? with
    | none => none
    | some run =>
      if n < run.first then Runs.search runs n lo mid
      else if run.last < n then Runs.search runs n (mid + 1) hi
      else some run
  else none
termination_by hi - lo

/-- The run that holds the code point `n`. -/
def Runs.find? (runs : Runs) (n : Nat) : Option Run := runs.search n 0 runs.size

/-- Whether some run holds the code point of `c`. -/
def Runs.holds (runs : Runs) (c : Char) : Bool := (runs.find? c.toNat).isSome

/-- What the table says about `c`, or `dflt` where it says nothing. -/
def Runs.valueAt (runs : Runs) (dflt : Int) (c : Char) : Int :=
  match runs.find? c.toNat with
  | some run => run.value
  | none => dflt

end Unicode
end RegistryAuth
