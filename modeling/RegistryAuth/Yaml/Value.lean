import RegistryAuth.Config.Shape
import RegistryAuth.Yaml.Node
import RegistryAuth.Yaml.Scalar

/-!
# The values of a document

Every node of a graph stands for a value.  Values are made in the order of breadth: the
members of a collection only after the collection itself, so that a collection can be
part of itself.  A mapping may take entries of others in (`flatten`); a key must be a
scalar.

`Document.ofText` reads a text, and `Document.look` shows its values as shapes.
-/

namespace RegistryAuth
namespace Yaml

/-- A value.  A mapping is known by its node; what other collections hold is of no
use here. -/
inductive Value where
  | null
  | bool (b : Bool)
  | int (i : Int)
  | float (d : Double)
  | text (s : String)
  | bytes (bs : List UInt8)
  | moment
  | mapping (node : Nat)
  | list
  | set
  deriving Repr

/-- Whether a value can be a key. -/
def Value.isHashable : Value → Bool
  | .mapping _ | .list | .set => false
  | _ => true

/-- What is kept while values are made: the nodes, whose mappings may take entries in,
the value of each node that has one, the entries of each mapping, and the collections
whose members are still to be made. -/
structure Maker where
  nodes : Array Node
  values : Array (Option Value)
  entries : Array (List (Value × Value))
  waiting : List Nat

/-- An action that makes values. -/
abbrev Making := StateT Maker (Except Fault)

namespace Making

/-- A failure of a value. -/
def refuseValue {α : Type} (f : ValueFault) : Making α := throw (.value f)

/-- The node at a position. -/
def node (i : Nat) : Making Node := do
  return ((← get).nodes[i]?).getD ⟨.other, .scalar []⟩

/-- Replaces a node. -/
def setNode (i : Nat) (n : Node) : Making Unit :=
  modify fun m => { m with nodes := m.nodes.modify i fun _ => n }

/-- The first entry whose key is the mark of a value. -/
def markedValue? : List (Nat × Nat) → Making (Option Nat)
  | [] => return none
  | (k, v) :: rest => do
    if (← node k).tag = .value then return some v else markedValue? rest

/-- The text of a scalar, or of what a mapping marks as its value. -/
def scalarText : Nat → Nat → Making (List Char)
  | 0, _ => refuseValue .notScalar
  | fuel + 1, i => do
    match (← node i).content with
    | .scalar text => return text
    | .sequence _ => refuseValue .notScalar
    | .mapping entries =>
      match ← markedValue? entries with
      | some v => scalarText fuel v
      | none => refuseValue .notScalar

/-- The value of a collection, whose members are made later. -/
def postpone (i : Nat) (v : Value) : Making Value := do
  modify fun m => { m with waiting := m.waiting ++ [i] }
  return v

/-- Reads the value of a scalar. -/
def readScalar {α : Type} (i : Nat) (read : List Char → Except Fault α) : Making α := do
  let text ← scalarText ((← get).nodes.size + 1) i
  match read text with
  | .ok a => return a
  | .error f => throw f

/-- Makes the value of a node that has none. -/
def make (i : Nat) : Making Value := do
  let n ← node i
  match n.tag with
  | .null => readScalar i fun _ => .ok .null
  | .bool => readScalar i fun cs => .bool <$> Scalar.flag cs
  | .int => readScalar i fun cs => .int <$> Scalar.int cs
  | .float => readScalar i fun cs => .float <$> Scalar.float cs
  | .binary => readScalar i fun cs => .bytes <$> Scalar.binary cs
  | .str => readScalar i fun cs => .ok (.text (String.ofList cs))
  | .timestamp => do
    let isScalar := match n.content with
      | .scalar _ => true
      | _ => false
    readScalar i fun cs =>
      if isScalar then (fun _ => .moment) <$> Scalar.moment cs
      else .error (.scalar .momentOfMapping)
  | .seq | .omap | .pairs => postpone i .list
  | .set => postpone i .set
  | .map => postpone i (.mapping i)
  | .merge | .value | .other => refuseValue .unknownTag

/-- The value of a node. -/
def value (i : Nat) : Making Value := do
  match ((← get).values[i]?).join with
  | some v => return v
  | none =>
    let v ← make i
    modify fun m => { m with values := m.values.modify i fun _ => some v }
    return v

/-- The entries of a mapping node. -/
def entriesOf (i : Nat) : Making (Option (List (Nat × Nat))) := do
  match (← node i).content with
  | .mapping entries => return some entries
  | _ => return none

/-- Replaces the entries of a mapping node. -/
def setEntries (i : Nat) (entries : List (Nat × Nat)) : Making Unit := do
  setNode i { ← node i with content := .mapping entries }

/-- The next entry that merges something in, of entries that begin at position `at'` of a
mapping: its position, and the node of what it merges in.  Marks of values that come before
it are texts from then on. -/
def nextMerge (at' : Nat) : List (Nat × Nat) → Making (Option (Nat × Nat))
  | [] => return none
  | (k, v) :: rest => do
    let key ← node k
    if key.tag = .merge then return some (at', v)
    else
      if key.tag = .value then setNode k { key with tag := .str }
      nextMerge (at' + 1) rest

/-- The entries of several mappings that are merged in, each of them flattened before. -/
def mergeSources (flat : Nat → Making Unit) : List Nat → Making (List (List (Nat × Nat)))
  | [] => return []
  | i :: rest => do
    if (← entriesOf i).isNone then refuseValue .mergeSource
    flat i
    let own := (← entriesOf i).getD []
    return own :: (← mergeSources flat rest)

/-- The entries that a node gives to whoever merges it in: those of a mapping, or of several
in a sequence, of which the last comes first. -/
def entriesFrom (flat : Nat → Making Unit) (v : Nat) : Making (List (Nat × Nat)) := do
  match (← node v).content with
  | .mapping _ =>
    flat v
    return (← entriesOf v).getD []
  | .sequence items => return (← mergeSources flat items).reverse.flatten
  | .scalar _ => refuseValue .mergeSource

/-- Takes the entries that a mapping merges in to its front, looking at its entries
from position `at'` on; `merged` are those found so far.  The first argument bounds the
merges that are still to come. -/
def flatten : Nat → (i at' : Nat) → (merged : List (Nat × Nat)) → Making Unit
  | merges, i, at', merged => do
    let entries := (← entriesOf i).getD []
    match ← nextMerge at' (entries.drop at') with
    | none => if merged.isEmpty then return else setEntries i (merged ++ entries)
    | some (at', v) =>
      match merges with
      | 0 => refuseValue .mergeSource
      | merges + 1 =>
        setEntries i (entries.eraseIdx at')
        let more ← entriesFrom (fun j => flatten merges j 0 []) v
        flatten merges i at' (merged ++ more)

/-- How many entries of a node merge something in. -/
def mergesAt (m : Maker) (n : Node) : Nat :=
  match n.content with
  | .mapping entries => entries.countP fun (k, _) => (m.nodes[k]?).any fun key => key.tag = .merge
  | _ => 0

/-- How many merges there are in all: a merge is taken out of its mapping before what it
merges in is flattened, so there cannot be more to come (`Making.run_mappingEntries`). -/
def mergesIn (m : Maker) : Nat := m.nodes.toList.foldr (fun n sum => mergesAt m n + sum) 0

/-- Makes the entries of a mapping. -/
def makeEntries : List (Nat × Nat) → Making (List (Value × Value))
  | [] => return []
  | (k, v) :: rest => do
    let key ← value k
    if !key.isHashable then refuseValue .unhashableKey
    let val ← value v
    return (key, val) :: (← makeEntries rest)

/-- Makes the entries of a mapping node, those merged in included. -/
def mappingEntries (i : Nat) : Making (List (Value × Value)) := do
  if (← entriesOf i).isNone then refuseValue .notMapping
  flatten (mergesIn (← get)) i 0 []
  makeEntries ((← entriesOf i).getD [])

/-- The items of a sequence node. -/
def itemsOf (i : Nat) : Making (List Nat) := do
  match (← node i).content with
  | .sequence items => return items
  | _ => refuseValue .notSequence

/-- Makes an item of an ordered mapping: a mapping of one entry. -/
def makePair (i : Nat) : Making Unit := do
  match ← entriesOf i with
  | some [(k, v)] =>
    let _ ← value k
    let _ ← value v
  | some _ => refuseValue .singlePair
  | none => refuseValue .notMapping

/-- Makes the members of a collection. -/
def makeMembers (i : Nat) : Making Unit := do
  match (← node i).tag with
  | .seq =>
    for item in ← itemsOf i do
      let _ ← value item
  | .omap | .pairs =>
    for item in ← itemsOf i do
      makePair item
  | .map =>
    let entries ← mappingEntries i
    modify fun m => { m with entries := m.entries.modify i fun _ => entries }
  | .set =>
    let _ ← mappingEntries i
  | _ => return

/-- Makes the members of all collections that wait for theirs.  Each node waits at most
once. -/
def makeAll : Nat → Making Unit
  | 0 => return
  | fuel + 1 => do
    match (← get).waiting with
    | [] => return
    | i :: rest =>
      modify fun m => { m with waiting := rest }
      makeMembers i
      makeAll fuel

end Making

/-- A document: its value, and the entries of the mappings in it. -/
structure Document where
  root : Value
  entries : Array (List (Value × Value))

namespace Document

/-- The values of a graph. -/
def ofGraph (g : Graph) : Except Fault Document :=
  let n := g.nodes.size
  let act : Making Value := do
    let root ← Making.value g.root
    Making.makeAll (n + 1)
    return root
  match act.run ⟨g.nodes, Array.replicate n none, Array.replicate n [], []⟩ with
  | .error f => .error f
  | .ok (root, m) => .ok ⟨root, m.entries⟩

/-- The document that a text holds, if it holds one. -/
def ofText (cs : List Char) : Except Fault (Option Document) :=
  match Graph.ofText cs with
  | .error f => .error f
  | .ok none => .ok none
  | .ok (some g) => (ofGraph g).map some

/-- The last entry under a name. -/
def find (name : String) (entries : List (Value × Value)) : Option Value :=
  (entries.reverse.find? fun
    | (.text s, _) => s = name
    | _ => false).map Prod.snd

/-- The shape of a value. -/
def look (d : Document) : Value → Shape Value
  | .null => .null
  | .bool b => .bool b
  | .int i => .int i
  | .float x => .float x
  | .text s => .text s
  | .bytes bs => .bytes bs
  | .mapping i => .mapping fun name => find name ((d.entries[i]?).getD [])
  | .moment | .list | .set => .other

end Document
end Yaml
end RegistryAuth
