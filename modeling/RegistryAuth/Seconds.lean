import RegistryAuth.Number.Written

/-!
# Lengths of time

A time limit is a number of seconds, and a message repeats it as it was given: a whole
number without a point, another one with it.
-/

namespace RegistryAuth

/-- A number of seconds. -/
inductive Seconds where
  | whole (n : Int)
  | real (d : Double)
  deriving Repr, DecidableEq

/-- The number as a message repeats it. -/
def Seconds.text : Seconds → String
  | .whole n => String.ofList (intText n)
  | .real d => String.ofList d.text

/-- The words for a time limit that may be missing. -/
def Seconds.limitText : Option Seconds → String
  | none => "None"
  | some s => s.text

end RegistryAuth
