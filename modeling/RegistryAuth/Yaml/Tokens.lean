import RegistryAuth.Yaml.Token

/-!
# The tokens of a document

A text is read into tokens from front to back.  Two things make that more than a choice
among the readers of single tokens.  Indentation opens and closes collections, which
adds tokens that no character writes.  And a key is known as one only when the colon
behind it is found, so the places where a key may have begun are kept (`PendingKey`),
and the marks that precede the key are put in front of it afterwards.

A token is given out as soon as no mark can be put in front of it any more; the tokens
that were given out before a fault are part of the result, since what they say may be
wrong in a way that is found first.
-/

namespace RegistryAuth
namespace Yaml

/-- A token that may turn out to begin a key: its number, whether only a key can stand
there, and its place. -/
structure PendingKey where
  number : Nat
  required : Bool
  index : Nat
  line : Nat
  column : Nat
  deriving Repr, DecidableEq

/-- How far a text has been read.  `flow` is the depth of flow collections; `indents`
are the columns of the block collections around the innermost one, whose column is
`indent`; there is at most one pending key on each depth.  `queue` holds the tokens that
are not given out yet, and `taken` counts those that are. -/
structure Scanner where
  place : Cursor
  flow : Int
  indent : Int
  indents : List Int
  keysAllowed : Bool
  pending : List (Int × PendingKey)
  taken : Nat
  queue : List Token
  done : Bool

/-- The tokens that are given out, and what ends them if it is not the end of the
text. -/
structure Tokens where
  tokens : List Token
  fault : Option Fault
  deriving Repr

namespace Scanner

/-- Before the first character. -/
def start (cs : List Char) : Scanner :=
  ⟨.start cs, 0, -1, [], true, [], 0, [], false⟩

/-- Whether the place is in a flow collection. -/
def inFlow (s : Scanner) : Bool := s.flow != 0

/-- Adds a token. -/
def push (s : Scanner) (t : Token) : Scanner := { s with queue := s.queue ++ [t] }

/-- The furthest that a key may reach. -/
def keyReach : Nat := 1024

/-- Whether a key can no longer begin at a pending place. -/
def isStale (s : Scanner) (k : PendingKey) : Bool :=
  k.line != s.place.line || k.index + keyReach < s.place.index

/-- Drops the pending keys that are too far back. -/
def dropStale (s : Scanner) : Except Fault Scanner :=
  if s.pending.any fun e => s.isStale e.2 && e.2.required then refuse .keyWithoutColon
  else .ok { s with pending := s.pending.filter fun e => !s.isStale e.2 }

/-- Drops the pending key on the present depth. -/
def dropPending (s : Scanner) : Except Fault Scanner :=
  match s.pending.lookup s.flow with
  | none => .ok s
  | some k =>
    if k.required then refuse .keyWithoutColon
    else .ok { s with pending := s.pending.filter fun e => e.1 != s.flow }

/-- Remembers that a key may begin here. -/
def savePending (s : Scanner) : Except Fault Scanner :=
  if !s.keysAllowed then .ok s
  else do
    let required := !s.inFlow && s.indent == s.place.column
    let s ← s.dropPending
    let key : PendingKey := ⟨s.taken + s.queue.length, required, s.place.index, s.place.line,
      s.place.column⟩
    return { s with pending := s.pending ++ [(s.flow, key)] }

/-- Closes the block collections that are indented further than `column`. -/
def unwindTo (column : Int) : List Int → Scanner → Scanner
  | [], s => s
  | outer :: rest, s =>
    if s.indent > column then
      unwindTo column rest { s.push .blockEnd with indent := outer, indents := rest }
    else s

/-- Closes the block collections that are indented further than `column`, unless the
place is in a flow collection. -/
def unwind (s : Scanner) (column : Int) : Scanner :=
  if s.inFlow then s else unwindTo column s.indents s

/-- Opens a block collection at a column if that is further than the present one; says
whether it did. -/
def indentTo (s : Scanner) (column : Int) : Bool × Scanner :=
  if s.indent < column then
    (true, { s with indents := s.indent :: s.indents, indent := column })
  else (false, s)

/-- Opens a block collection at the present column, and adds its token. -/
def openBlock (s : Scanner) (t : Token) : Scanner :=
  match s.indentTo s.place.column with
  | (true, s) => s.push t
  | (false, s) => s

/-- Moves on by some characters and adds a token. -/
def emit (s : Scanner) (n : Nat) (t : Token) : Scanner :=
  { s.push t with place := s.place.skip n }

/-- Passes over blanks, comments and line breaks. -/
def skipGaps : Nat → Scanner → Scanner
  | 0, s => s
  | fuel + 1, s =>
    let p := s.place.skipComment
    if isBreak p.peek then
      skipGaps fuel { s with place := p.lineBreak.2, keysAllowed := s.keysAllowed || !s.inFlow }
    else { s with place := p }

/-- Passes over what lies before the next token, a mark of byte order included. -/
def skipToToken (s : Scanner) : Scanner :=
  let p := s.place
  let p := if p.index = 0 ∧ p.peek.toNat = 0xFEFF then p.next else p
  skipGaps (p.rest.length + 1) { s with place := p }

/-- Ends all block collections, as a document or the text ends. -/
def closeAll (s : Scanner) : Except Fault Scanner := do
  let s ← (s.unwind (-1)).dropPending
  return { s with keysAllowed := false }

/-- The end of the text. -/
def streamEnd (s : Scanner) : Except Fault Scanner := do
  let s ← s.closeAll
  return { s.push .streamEnd with pending := [], done := true }

/-- A directive. -/
def directive (s : Scanner) : Except Fault Scanner := do
  let s ← s.closeAll
  let (d, p) ← readDirective s.place.next
  return { s.push (.directive d) with place := p }

/-- The mark of a document's start or end. -/
def documentMark (s : Scanner) (t : Token) : Except Fault Scanner := do
  let s ← s.closeAll
  return s.emit 3 t

/-- The start of a flow collection. -/
def flowStart (s : Scanner) (t : Token) : Except Fault Scanner := do
  let s ← s.savePending
  return { s.emit 1 t with flow := s.flow + 1, keysAllowed := true }

/-- The end of a flow collection. -/
def flowEnd (s : Scanner) (t : Token) : Except Fault Scanner := do
  let s ← s.dropPending
  return { s.emit 1 t with flow := s.flow - 1, keysAllowed := false }

/-- A comma between the entries of a flow collection. -/
def flowEntry (s : Scanner) : Except Fault Scanner := do
  let s ← { s with keysAllowed := true }.dropPending
  return s.emit 1 .flowEntry

/-- The mark of an entry of a block sequence. -/
def blockEntry (s : Scanner) : Except Fault Scanner := do
  if !s.inFlow && !s.keysAllowed then refuse .entryPlace
  let s := if s.inFlow then s else s.openBlock .blockSequenceStart
  let s ← { s with keysAllowed := true }.dropPending
  return s.emit 1 .blockEntry

/-- The mark of a key. -/
def explicitKey (s : Scanner) : Except Fault Scanner := do
  if !s.inFlow && !s.keysAllowed then refuse .keyPlace
  let s := if s.inFlow then s else s.openBlock .blockMappingStart
  let s ← { s with keysAllowed := !s.inFlow }.dropPending
  return s.emit 1 .key

/-- Puts the marks of a key, and of a block mapping that it opens, in front of it. -/
def confirmKey (s : Scanner) (k : PendingKey) : Scanner :=
  let at' := k.number - s.taken
  let s := { s with
    pending := s.pending.filter fun e => e.1 != s.flow
    queue := s.queue.insertIdx at' .key
    keysAllowed := false }
  if s.inFlow then s
  else
    match s.indentTo k.column with
    | (true, s) => { s with queue := s.queue.insertIdx at' .blockMappingStart }
    | (false, s) => s

/-- The mark of a value. -/
def valueMark (s : Scanner) : Except Fault Scanner :=
  match s.pending.lookup s.flow with
  | some k => .ok ((s.confirmKey k).emit 1 .value)
  | none => do
    if !s.inFlow && !s.keysAllowed then refuse .valuePlace
    let s := if s.inFlow then s else s.openBlock .blockMappingStart
    let s ← { s with keysAllowed := !s.inFlow }.dropPending
    return s.emit 1 .value

/-- A token with a text of its own that may begin a key. -/
def keyed (s : Scanner) (read : Cursor → Except Fault (Token × Cursor)) : Except Fault Scanner := do
  let s ← s.savePending
  let (t, p) ← read s.place
  return { s.push t with place := p, keysAllowed := false }

/-- A block scalar. -/
def blockScalar (s : Scanner) (folded : Bool) : Except Fault Scanner := do
  let s ← { s with keysAllowed := true }.dropPending
  let (text, p) ← readBlockScalar folded s.indent s.place
  return { s.push (.scalar text false) with place := p }

/-- A plain scalar; behind one that ends its line a key may begin. -/
def plainScalar (s : Scanner) : Except Fault Scanner := do
  let s ← s.savePending
  let (t, p) := readPlain s.inFlow s.indent s.place
  return { s.push (.scalar t.text true) with place := p, keysAllowed := t.newLine }

/-- Whether a plain scalar can begin here. -/
def plainStarts (s : Scanner) : Bool :=
  let c := s.place.peek
  let mark := isWide c || c = Char.ofNat 123 || c = Char.ofNat 125 ||
    "-?:,[]#&*!|>'\"%@`".toList.contains c
  !mark || (!isWide (s.place.peekAt 1) && (c = '-' || (!s.inFlow && (c = '?' || c = ':'))))

/-- Reads the token that begins at the place. -/
def scanToken (s : Scanner) : Except Fault Scanner :=
  let p := s.place
  let c := p.peek
  let spaced := isWide (p.peekAt 1)
  if c = endChar then s.streamEnd
  else if c = '%' ∧ p.column = 0 then s.directive
  else if p.column = 0 ∧ p.atMark '-' then s.documentMark .documentStart
  else if p.column = 0 ∧ p.atMark '.' then s.documentMark .documentEnd
  else if c = '[' then s.flowStart .flowSequenceStart
  else if c = Char.ofNat 123 then s.flowStart .flowMappingStart
  else if c = ']' then s.flowEnd .flowSequenceEnd
  else if c = Char.ofNat 125 then s.flowEnd .flowMappingEnd
  else if c = ',' then s.flowEntry
  else if c = '-' ∧ spaced then s.blockEntry
  else if c = '?' ∧ (s.inFlow ∨ spaced) then s.explicitKey
  else if c = ':' ∧ (s.inFlow ∨ spaced) then s.valueMark
  else if c = '*' then s.keyed fun p => (readAnchor p).map fun (n, p) => (.alias n, p)
  else if c = '&' then s.keyed fun p => (readAnchor p).map fun (n, p) => (.anchor n, p)
  else if c = '!' then s.keyed fun p => (readTag p).map fun (t, p) => (.tag t, p)
  else if c = '|' ∧ !s.inFlow then s.blockScalar false
  else if c = '>' ∧ !s.inFlow then s.blockScalar true
  else if c = '\'' then s.keyed fun p => (readQuoted false p).map fun (t, p) => (.scalar t false, p)
  else if c = '"' then s.keyed fun p => (readQuoted true p).map fun (t, p) => (.scalar t false, p)
  else if s.plainStarts then s.plainScalar
  else refuse .badStart

/-- Reads on until there is a further token. -/
def step (s : Scanner) : Except Fault Scanner := do
  let s ← s.skipToToken.dropStale
  (s.unwind s.place.column).scanToken

/-- Whether a mark may still be put in front of the first token of the queue. -/
def isHeld (s : Scanner) : Bool := s.pending.any fun e => e.2.number == s.taken

/-- Takes the tokens that can be given out; at most all of the queue. -/
def release : List Token → Scanner → List Token × Scanner
  | [], s => ([], s)
  | t :: ts, s =>
    if !s.done && s.isHeld then ([], s)
    else
      let (out, s) := release ts { s with queue := ts, taken := s.taken + 1 }
      (t :: out, s)

/-- Reads on to the end.  Each step but the last takes a character. -/
def run : Nat → Scanner → Tokens
  | 0, _ => ⟨[], none⟩
  | fuel + 1, s =>
    match s.step with
    | .error f => ⟨[], some f⟩
    | .ok s =>
      match if s.done then .ok s else s.dropStale with
      | .error f => ⟨[], some f⟩
      | .ok s =>
        let (out, s) := release s.queue s
        if s.done then ⟨out, none⟩
        else
          let rest := run fuel s
          ⟨out ++ rest.tokens, rest.fault⟩

end Scanner

/-- The tokens of a text. -/
def Tokens.ofText (cs : List Char) : Tokens := (Scanner.start cs).run (cs.length + 2)

end Yaml
end RegistryAuth
