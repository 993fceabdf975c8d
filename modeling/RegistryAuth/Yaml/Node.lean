import RegistryAuth.Yaml.Tag
import RegistryAuth.Yaml.Tokens

/-!
# The nodes of a document

A document is a graph: an anchor names a node, and an alias stands for the node of that
name, which may be one that it is part of.  The nodes are kept in an array, and a
collection holds the positions of its members.

`Graph.ofText` reads a text that holds one document or none.  Its readers follow the
structure of the tokens; where a token is needed behind the last one that was given
out, the fault that ended the tokens is the document's.
-/

namespace RegistryAuth
namespace Yaml

/-- The content of a node; members are positions in the graph. -/
inductive Content where
  | scalar (text : List Char)
  | sequence (items : List Nat)
  | mapping (entries : List (Nat × Nat))
  deriving Repr, DecidableEq

/-- A node. -/
structure Node where
  tag : Tag
  content : Content
  deriving Repr, DecidableEq

/-- The nodes of a document, and which of them is the whole. -/
structure Graph where
  nodes : Array Node
  root : Nat
  deriving Repr

/-- What is kept while nodes are read: the tokens that are left, the nodes so far, the
anchors of the document and what its handles stand for. -/
structure Reader where
  left : Tokens
  nodes : Array Node
  anchors : List (List Char × Nat)
  handles : List (List Char × List Char)

/-- An action that reads tokens. -/
abbrev Reading := StateT Reader (Except Fault)

namespace Reading

/-- The next token. -/
def peek : Reading Token := do
  let r ← get
  match r.left.tokens, r.left.fault with
  | t :: _, _ => return t
  | [], some f => throw f
  | [], none => return .streamEnd

/-- Passes over the next token. -/
def advance : Reading Unit :=
  modify fun r => { r with left := { r.left with tokens := r.left.tokens.drop 1 } }

/-- Adds a node, under its anchor if it has one. -/
def add (anchor : Option (List Char)) (n : Node) : Reading Nat := do
  let r ← get
  match anchor with
  | none =>
    set { r with nodes := r.nodes.push n }
    return r.nodes.size
  | some name =>
    if (r.anchors.lookup name).isSome then throw (.node .duplicateAnchor)
    set { r with nodes := r.nodes.push n, anchors := (name, r.nodes.size) :: r.anchors }
    return r.nodes.size

/-- Gives a node its content. -/
def fill (i : Nat) (c : Content) : Reading Unit :=
  modify fun r => { r with nodes := r.nodes.modify i fun n => { n with content := c } }

/-- Adds the node that stands where there is none. -/
def addEmpty : Reading Nat := add none ⟨.null, .scalar []⟩

/-- The name that a tag stands for. -/
def tagName (t : TagText) : Reading (List Char) := do
  match t.handle with
  | none => return t.suffix
  | some handle =>
    match (← get).handles.lookup handle with
    | some target => return target ++ t.suffix
    | none => throw (.structural .undefinedHandle)

/-- Reads an anchor, a tag, or both in either order. -/
def properties : Reading (Option (List Char) × Option (List Char)) := do
  match ← peek with
  | .anchor name =>
    advance
    match ← peek with
    | .tag t =>
      advance
      return (some name, some (← tagName t))
    | _ => return (some name, none)
  | .tag t =>
    advance
    match ← peek with
    | .anchor name =>
      advance
      return (some name, some (← tagName t))
    | _ => return (none, some (← tagName t))
  | _ => return (none, none)

/-- The tag of a scalar: the one that is written, or the one that its form gives it,
unless it is quoted. -/
def scalarTag (tag : Option (List Char)) (plain : Bool) (text : List Char) : Tag :=
  match tag with
  | none => if plain then .ofPlain text else .str
  | some ['!'] => .ofPlain text
  | some name => .ofName name

/-- The tag of a collection: the one that is written, or the usual one. -/
def collectionTag (tag : Option (List Char)) (usual : Tag) : Tag :=
  match tag with
  | none => usual
  | some ['!'] => usual
  | some name => .ofName name

/-- Whether a token ends an entry of a block mapping. -/
def endsMappingPart : Token → Bool
  | .key | .value | .blockEnd => true
  | _ => false

/-- Whether a token ends an entry of a block sequence. -/
def endsSequencePart : Token → Bool
  | .blockEntry | .blockEnd => true
  | _ => false

/-- Whether a token ends an entry of a flow collection that `stop` ends. -/
def endsFlowPart (stop t : Token) : Bool := t == .flowEntry || t == stop

/-- Passes over the comma before an entry of a flow collection that is not the
first. -/
def entryComma (first : Bool) (f : StructureFault) : Reading Unit := do
  if first then return
  match ← peek with
  | .flowEntry => advance
  | _ => throw (.structural f)

mutual

/-- Reads a node.  `block` says whether it may be a block collection, `indentless`
whether it may be a sequence without indentation of its own. -/
def node : Nat → (block indentless : Bool) → Reading Nat
  | 0, _, _ => throw (.structural .noContent)
  | fuel + 1, block, indentless => do
    match ← peek with
    | .alias name =>
      advance
      match (← get).anchors.lookup name with
      | some i => return i
      | none => throw (.node .undefinedAlias)
    | _ =>
      let (anchor, tag) ← properties
      match ← peek, block, indentless with
      | .blockEntry, _, true => do
        let i ← add anchor ⟨collectionTag tag .seq, .sequence []⟩
        fill i (.sequence (← indentlessItems fuel))
        return i
      | .scalar text plain, _, _ => do
        advance
        add anchor ⟨scalarTag tag plain text, .scalar text⟩
      | .flowSequenceStart, _, _ => do
        advance
        let i ← add anchor ⟨collectionTag tag .seq, .sequence []⟩
        fill i (.sequence (← flowItems fuel true))
        return i
      | .flowMappingStart, _, _ => do
        advance
        let i ← add anchor ⟨collectionTag tag .map, .mapping []⟩
        fill i (.mapping (← flowEntries fuel true))
        return i
      | .blockSequenceStart, true, _ => do
        advance
        let i ← add anchor ⟨collectionTag tag .seq, .sequence []⟩
        fill i (.sequence (← blockItems fuel))
        return i
      | .blockMappingStart, true, _ => do
        advance
        let i ← add anchor ⟨collectionTag tag .map, .mapping []⟩
        fill i (.mapping (← blockEntries fuel))
        return i
      | _, _, _ =>
        if anchor.isSome || tag.isSome then add anchor ⟨scalarTag tag true [], .scalar []⟩
        else throw (.structural .noContent)

/-- Reads the items of a block sequence, up to its end. -/
def blockItems : Nat → Reading (List Nat)
  | 0 => throw (.structural .openBlock)
  | fuel + 1 => do
    match ← peek with
    | .blockEntry =>
      advance
      let i ← if endsSequencePart (← peek) then addEmpty else node fuel true false
      return i :: (← blockItems fuel)
    | .blockEnd =>
      advance
      return []
    | _ => throw (.structural .openBlock)

/-- Reads the items of a sequence without indentation of its own. -/
def indentlessItems : Nat → Reading (List Nat)
  | 0 => throw (.structural .openBlock)
  | fuel + 1 => do
    match ← peek with
    | .blockEntry =>
      advance
      let t ← peek
      let i ← if endsSequencePart t || endsMappingPart t then addEmpty else node fuel true false
      return i :: (← indentlessItems fuel)
    | _ => return []

/-- Reads the entries of a block mapping, up to its end. -/
def blockEntries : Nat → Reading (List (Nat × Nat))
  | 0 => throw (.structural .openBlock)
  | fuel + 1 => do
    match ← peek with
    | .key =>
      advance
      let k ← if endsMappingPart (← peek) then addEmpty else node fuel true true
      let v ← blockValue fuel
      return (k, v) :: (← blockEntries fuel)
    | .blockEnd =>
      advance
      return []
    | _ => throw (.structural .openBlock)

/-- Reads the value of an entry of a block mapping. -/
def blockValue : Nat → Reading Nat
  | 0 => throw (.structural .openBlock)
  | fuel + 1 => do
    match ← peek with
    | .value =>
      advance
      if endsMappingPart (← peek) then addEmpty else node fuel true true
    | _ => addEmpty

/-- Reads the items of a flow sequence, up to its end.  A key begins a mapping of one
entry. -/
def flowItems : Nat → (first : Bool) → Reading (List Nat)
  | 0, _ => throw (.structural .openFlowSequence)
  | fuel + 1, first => do
    if (← peek) == .flowSequenceEnd then
      advance
      return []
    entryComma first .openFlowSequence
    match ← peek with
    | .key =>
      let i ← add none ⟨.map, .mapping []⟩
      advance
      let k ← flowPart fuel .flowSequenceEnd true
      let v ← flowValue fuel .flowSequenceEnd
      fill i (.mapping [(k, v)])
      return i :: (← flowItems fuel false)
    | .flowSequenceEnd =>
      advance
      return []
    | _ =>
      let i ← node fuel false false
      return i :: (← flowItems fuel false)

/-- Reads the entries of a flow mapping, up to its end.  An entry without a mark is a
key without a value. -/
def flowEntries : Nat → (first : Bool) → Reading (List (Nat × Nat))
  | 0, _ => throw (.structural .openFlowMapping)
  | fuel + 1, first => do
    if (← peek) == .flowMappingEnd then
      advance
      return []
    entryComma first .openFlowMapping
    match ← peek with
    | .key =>
      advance
      let k ← flowPart fuel .flowMappingEnd true
      let v ← flowValue fuel .flowMappingEnd
      return (k, v) :: (← flowEntries fuel false)
    | .flowMappingEnd =>
      advance
      return []
    | _ =>
      let k ← node fuel false false
      let v ← addEmpty
      return (k, v) :: (← flowEntries fuel false)

/-- Reads a key or a value in a flow collection that `stop` ends; nothing may stand for
it, and before a key the mark of a value may follow at once. -/
def flowPart : Nat → (stop : Token) → (isKey : Bool) → Reading Nat
  | 0, _, _ => throw (.structural .noContent)
  | fuel + 1, stop, isKey => do
    let t ← peek
    if endsFlowPart stop t || (isKey && t == .value) then addEmpty else node fuel false false

/-- Reads the value of an entry in a flow collection that `stop` ends. -/
def flowValue : Nat → (stop : Token) → Reading Nat
  | 0, _ => throw (.structural .noContent)
  | fuel + 1, stop => do
    match ← peek with
    | .value =>
      advance
      flowPart fuel stop false
    | _ => addEmpty

end

/-- The handles that every document has. -/
def standardHandles : List (List Char × List Char) :=
  [(['!'], ['!']), (['!', '!'], tagSpace)]

/-- Passes over the marks of documents' ends. -/
def skipDocumentEnds : Nat → Reading Unit
  | 0 => return
  | fuel + 1 => do
    match ← peek with
    | .documentEnd =>
      advance
      skipDocumentEnds fuel
    | _ => return

/-- Reads the directives of a document: at most one version, which must begin with one,
and no handle twice. -/
def directives : Nat → (version : Bool) → List (List Char × List Char) → Reading Unit
  | 0, _, _ => return
  | fuel + 1, version, own => do
    match ← peek with
    | .directive d =>
      advance
      match d with
      | .version major _ =>
        if version then throw (.structural .duplicateDirective)
        if major ≠ 1 then throw (.structural .version)
        directives fuel true own
      | .handle name target =>
        if (own.lookup name).isSome then throw (.structural .duplicateHandle)
        directives fuel version (own ++ [(name, target)])
      | .other => directives fuel version own
    | _ => modify fun r => { r with handles := own ++ standardHandles }

/-- Reads the head of a document behind its directives; false where the text ends. -/
def documentHead (fuel : Nat) : Reading Bool := do
  skipDocumentEnds fuel
  if (← peek) == .streamEnd then return false
  directives fuel false []
  match ← peek with
  | .documentStart =>
    advance
    return true
  | _ => throw (.structural .noDocumentStart)

/-- Reads the content of a document behind its head. -/
def documentContent (fuel : Nat) : Reading Nat := do
  match ← peek with
  | .directive _ | .documentStart | .documentEnd | .streamEnd => addEmpty
  | _ => node fuel true false

/-- Reads a document without a head. -/
def bareDocument (fuel : Nat) : Reading (Option Nat) := do
  modify fun r => { r with handles := standardHandles }
  return some (← node fuel true false)

/-- Reads a document with a head, if there is one. -/
def headedDocument (fuel : Nat) : Reading (Option Nat) := do
  let headed ← documentHead fuel
  if headed then return some (← documentContent fuel) else return none

/-- Reads a text: no document, or one and nothing behind it. -/
def document (fuel : Nat) : Reading (Option Nat) := do
  let bare := match ← peek with
    | .directive _ | .documentStart | .streamEnd => false
    | _ => true
  let root ← if bare then bareDocument fuel else headedDocument fuel
  if root.isSome then
    let another ← documentHead fuel
    if another then throw (.node .secondDocument)
  return root

end Reading

/-- Whether `c` may stand in a text. -/
def isTextChar (c : Char) : Bool :=
  let n := c.toNat
  n = 9 || n = 10 || n = 13 || (0x20 ≤ n && n ≤ 0x7E) || n = 0x85 ||
    (0xA0 ≤ n && n ≤ 0xFFFD) || 0x10000 ≤ n

/-- The document that a text holds, if it holds one. -/
def Graph.ofText (cs : List Char) : Except Fault (Option Graph) :=
  if !cs.all isTextChar then .error .character
  else
    let tokens := Tokens.ofText cs
    let fuel := 4 * tokens.tokens.length + 8
    match (Reading.document fuel).run ⟨tokens, #[], [], Reading.standardHandles⟩ with
    | .error f => .error f
    | .ok (none, _) => .ok none
    | .ok (some root, r) => .ok (some ⟨r.nodes, root⟩)

end Yaml
end RegistryAuth
