import RegistryAuth.Console.Panel
import RegistryAuth.Json.Value

/-!
# Reports

A command reports what it found, step by step.  A finding that is not well is a warning
or a failure, and one failure makes the whole report one.  `Report.render` shows the
findings as a table, and `Mapping.render` shows fields and their values; both read markup
in what they show, except in the title.
-/

namespace RegistryAuth

/-- How much a finding matters. -/
inductive Severity where
  | info
  | warn
  | error
  deriving Repr, DecidableEq

/-- The name of the severity. -/
def Severity.name : Severity → String
  | .info => "info"
  | .warn => "warn"
  | .error => "error"

/-- What a step found. -/
structure Finding where
  step : String
  isOk : Bool
  detail : String
  severity : Severity
  deriving Repr, DecidableEq

/-- Whether the finding is a failure. -/
def Finding.isFailure (f : Finding) : Bool := !f.isOk && f.severity == .error

/-- The sign that a table shows for the finding. -/
def Finding.sign (f : Finding) : List Char :=
  if f.isOk then ['✅'] else if f.severity = .warn then ['⚠', Cells.emojiSelector] else ['❌']

/-- What is seen of the cells of a column.  Their markup is read only where there is room
for any text: without it a fault in the markup goes unseen too. -/
def shownCells (hasRoom : Bool) (cells : List String) : Except MarkupError (List (List Char)) :=
  cells.mapM fun cell => if hasRoom then Markup.render cell.toList else .ok []

/-- A report: its title and the findings in their order. -/
structure Report where
  title : String
  findings : List Finding
  deriving Repr, DecidableEq

namespace Report

/-- A report without findings. -/
def titled (title : String) : Report := ⟨title, []⟩

/-- Adds a finding. -/
def add (r : Report) (f : Finding) : Report := { r with findings := r.findings ++ [f] }

/-- Adds what went well. -/
def ok (r : Report) (step detail : String) : Report := r.add ⟨step, true, detail, .info⟩

/-- Adds a warning. -/
def warn (r : Report) (step detail : String) : Report := r.add ⟨step, false, detail, .warn⟩

/-- Adds a failure. -/
def fail (r : Report) (step detail : String) : Report := r.add ⟨step, false, detail, .error⟩

/-- Whether a failure is among the findings. -/
def hasFailures (r : Report) : Bool := r.findings.any Finding.isFailure

/-- The exit code of a command that ends with the report. -/
def exitCode (r : Report) : Nat := if r.hasFailures then 1 else 0

/-- The lines of the report, on a console of `width` cells. -/
def render (width : Nat) (r : Report) : Except MarkupError (List String) := do
  let hasRoom := Panel.hasRoom width 3
  let steps ← shownCells hasRoom (r.findings.map Finding.step)
  let details ← shownCells hasRoom (r.findings.map Finding.detail)
  let columns : List Column :=
    [⟨"Status".toList, some 8, r.findings.map Finding.sign⟩, ⟨"Step".toList, none, steps⟩,
      ⟨"Detail".toList, none, details⟩]
  return (Panel.lines width r.title.toList columns).map String.ofList

end Report

/-- Fields and their values under a title. -/
structure Mapping where
  title : String
  fields : List (String × Json)

namespace Mapping

/-- The text of a value; a value that is missing has none. -/
def valueText : Json → String
  | .null => ""
  | v => v.text.shown

/-- The lines of the mapping, on a console of `width` cells. -/
def render (width : Nat) (m : Mapping) : Except MarkupError (List String) := do
  let hasRoom := Panel.hasRoom width 2
  let keys ← shownCells hasRoom (m.fields.map Prod.fst)
  let values ← shownCells hasRoom (m.fields.map fun field => valueText field.2)
  let columns : List Column := [⟨"Field".toList, none, keys⟩, ⟨"Value".toList, none, values⟩]
  return (Panel.lines width m.title.toList columns).map String.ofList

end Mapping
end RegistryAuth
