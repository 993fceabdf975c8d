/-!
# Tags

The tag of a node says of which type its value is.  Scalars that are neither quoted nor
tagged are given one by their form: `Tag.ofPlain` recognises flags, numbers, times and
null, and everything else is a text.  A line break at the end of a scalar does not
change what it is recognised as.
-/

namespace RegistryAuth
namespace Yaml

/-- A tag: one of the types with values, or any other name. -/
inductive Tag where
  | null
  | bool
  | int
  | float
  | binary
  | timestamp
  | omap
  | pairs
  | set
  | str
  | seq
  | map
  | merge
  | value
  | other
  deriving Repr, DecidableEq

/-- What the names of the types begin with. -/
def tagSpace : List Char := "tag:yaml.org,2002:".toList

/-- The tag of a name that is written out. -/
def Tag.ofName (name : List Char) : Tag :=
  if name.take tagSpace.length ≠ tagSpace then .other
  else
    ([("null", Tag.null), ("bool", .bool), ("int", .int), ("float", .float),
      ("binary", .binary), ("timestamp", .timestamp), ("omap", .omap), ("pairs", .pairs),
      ("set", .set), ("str", .str), ("seq", .seq), ("map", .map), ("merge", .merge),
      ("value", .value)].lookup (String.ofList (name.drop tagSpace.length))).getD .other

/-- Whether nothing is left but perhaps a line break. -/
def atEnd (cs : List Char) : Bool := cs = [] || cs = ['\n']

/-- The text without a line break at its end. -/
def dropFinalBreak (cs : List Char) : List Char :=
  if cs.getLast? = some '\n' then cs.dropLast else cs

/-- What follows a sign, if there is one. -/
def dropSign : List Char → List Char
  | '-' :: cs => cs
  | '+' :: cs => cs
  | cs => cs

/-- Whether `c` is a digit or an underscore. -/
def isDigitOrBar (c : Char) : Bool := c.isDigit || c = '_'

/-- The words for flags. -/
def flagWords : List String :=
  ["yes", "Yes", "YES", "no", "No", "NO", "true", "True", "TRUE", "false", "False", "FALSE",
    "on", "On", "ON", "off", "Off", "OFF"]

/-- The words for null, other than none at all. -/
def nullWords : List String := ["~", "null", "Null", "NULL"]

/-- What follows groups of one or two digits below sixty, each behind a colon; none
where there is no such group. -/
def sixties? : List Char → Option (List Char)
  | ':' :: a :: b :: cs =>
    if b.isDigit then
      if a.isDigit && a < '6' then some ((sixties? cs).getD cs) else none
    else if a.isDigit then some ((sixties? (b :: cs)).getD (b :: cs))
    else none
  | [':', a] => if a.isDigit then some [] else none
  | _ => none

/-- Whether an exponent with a sign, or nothing, follows. -/
def isExponent : List Char → Bool
  | e :: s :: cs =>
    if (e = 'e' || e = 'E') && (s = '-' || s = '+') then
      !(cs.takeWhile Char.isDigit).isEmpty && atEnd (cs.dropWhile Char.isDigit)
    else atEnd (e :: s :: cs)
  | cs => atEnd cs

/-- Whether a scalar has the form of a floating-point number. -/
def isFloatForm (cs : List Char) : Bool :=
  let body := dropSign cs
  let after := body.dropWhile isDigitOrBar
  let startsWithDigit := (body.headD ' ').isDigit
  let plain := startsWithDigit && match after with
    | '.' :: frac => isExponent (frac.dropWhile isDigitOrBar)
    | _ => false
  let bare := match cs with
    | '.' :: d :: frac => d.isDigit && isExponent (frac.dropWhile isDigitOrBar)
    | _ => false
  let sexagesimal := startsWithDigit && match sixties? after with
    | some ('.' :: frac) => atEnd (frac.dropWhile isDigitOrBar)
    | _ => false
  let infinity := [".inf", ".Inf", ".INF"].contains (String.ofList (dropFinalBreak body))
  let nan := [".nan", ".NaN", ".NAN"].contains (String.ofList (dropFinalBreak cs))
  plain || bare || sexagesimal || infinity || nan

/-- Whether a scalar has the form of a whole number. -/
def isIntForm (cs : List Char) : Bool :=
  let body := dropSign cs
  let based (isOf : Char → Bool) (ds : List Char) : Bool :=
    !(ds.takeWhile isOf).isEmpty && atEnd (ds.dropWhile isOf)
  let isHex (c : Char) : Bool :=
    isDigitOrBar c || ('a' ≤ c && c ≤ 'f') || ('A' ≤ c && c ≤ 'F')
  match body with
  | '0' :: 'b' :: ds => based (fun c => c = '0' || c = '1' || c = '_') ds
  | '0' :: 'x' :: ds => based isHex ds
  | '0' :: ds => atEnd ds || based (fun c => ('0' ≤ c && c ≤ '7') || c = '_') ds
  | d :: ds =>
    d.isDigit &&
      (let after := ds.dropWhile isDigitOrBar
       atEnd after || match sixties? after with
        | some rest => atEnd rest
        | none => false)
  | [] => false

/-- The parts of a time as they are written. -/
structure MomentText where
  year : List Char
  month : List Char
  day : List Char
  time : Option (List Char × List Char × List Char)
  fraction : List Char
  zone : Option (Bool × List Char × List Char)
  deriving Repr, DecidableEq

/-- One or two digits, and what follows. -/
def twoDigits? (cs : List Char) : Option (List Char × List Char) :=
  let ds := (cs.take 2).takeWhile Char.isDigit
  if ds.isEmpty then none else some (ds, cs.drop ds.length)

/-- Exactly `n` digits, and what follows. -/
def digits? (n : Nat) (cs : List Char) : Option (List Char × List Char) :=
  let ds := cs.take n
  if ds.length = n && ds.all Char.isDigit then some (ds, cs.drop n) else none

/-- What follows a given character. -/
def after? (c : Char) : List Char → Option (List Char)
  | d :: cs => if d = c then some cs else none
  | [] => none

/-- Reads the zone behind a time: none, the letter for the zero one, or an offset with
its sign. -/
def MomentText.zone? (cs : List Char) : Option (Option (Bool × List Char × List Char)) :=
  if atEnd cs then some none
  else
    match cs.dropWhile fun c => c = ' ' || c = '\t' with
    | 'Z' :: cs => if atEnd cs then some none else none
    | s :: cs =>
      if s = '-' || s = '+' then do
        let (hours, cs) ← twoDigits? cs
        if atEnd cs then return some (s = '-', hours, [])
        let (minutes, cs) ← (after? ':' cs).bind (digits? 2)
        if atEnd cs then return some (s = '-', hours, minutes) else none
      else none
    | [] => none

/-- Reads a time: a date, and perhaps the time of day with a fraction and a zone. -/
def MomentText.parse? (cs : List Char) : Option MomentText := do
  let (year, cs) ← digits? 4 cs
  let (month, cs) ← (after? '-' cs).bind twoDigits?
  let (day, cs) ← (after? '-' cs).bind twoDigits?
  if atEnd cs then return ⟨year, month, day, none, [], none⟩
  let rest := match cs with
    | 'T' :: cs => cs
    | 't' :: cs => cs
    | cs => cs.dropWhile fun c => c = ' ' || c = '\t'
  if rest.length = cs.length then none
  let (hour, cs) ← twoDigits? rest
  let (minute, cs) ← (after? ':' cs).bind (digits? 2)
  let (second, cs) ← (after? ':' cs).bind (digits? 2)
  let (fraction, cs) := match cs with
    | '.' :: cs => (cs.takeWhile Char.isDigit, cs.dropWhile Char.isDigit)
    | cs => ([], cs)
  let zone ← MomentText.zone? cs
  return ⟨year, month, day, some (hour, minute, second), fraction, zone⟩

/-- Whether a scalar has the form of a time; a date alone has two digits for the month
and for the day. -/
def isMomentForm (cs : List Char) : Bool :=
  match MomentText.parse? cs with
  | some m => m.time.isSome || (m.month.length = 2 && m.day.length = 2)
  | none => false

/-- The tag of a scalar that is neither quoted nor tagged. -/
def Tag.ofPlain (cs : List Char) : Tag :=
  let word := String.ofList (dropFinalBreak cs)
  if flagWords.contains word then .bool
  else if isFloatForm cs then .float
  else if isIntForm cs then .int
  else if word = "<<" then .merge
  else if cs = [] || nullWords.contains word then .null
  else if isMomentForm cs then .timestamp
  else if word = "=" then .value
  else if word = "!" || word = "&" || word = "*" then .other
  else .str

end Yaml
end RegistryAuth
