import RegistryAuth.Text.Utf8
import RegistryAuth.Unicode.Runs
import RegistryAuth.Yaml.Cursor
import RegistryAuth.Yaml.Fault

/-!
# Tokens of a YAML text

The tokens, and the readers of those that have a text of their own: directives, anchors
and aliases, tags, and scalars in their five forms.  A reader takes the place at which
its token begins and gives the token with the place behind it.  Which reader is to be
tried, and where indentation adds tokens that no character writes, is decided in
`Yaml.Tokens`.
-/

namespace RegistryAuth
namespace Yaml

/-- A directive at the head of a document. -/
inductive Directive where
  | version (major minor : Nat)
  | handle (name target : List Char)
  | other
  deriving Repr, DecidableEq

/-- A tag as it is written: the handle, unless the tag is written out, and the rest. -/
structure TagText where
  handle : Option (List Char)
  suffix : List Char
  deriving Repr, DecidableEq

/-- A token. -/
inductive Token where
  | streamEnd
  | directive (d : Directive)
  | documentStart
  | documentEnd
  | blockSequenceStart
  | blockMappingStart
  | blockEnd
  | flowSequenceStart
  | flowSequenceEnd
  | flowMappingStart
  | flowMappingEnd
  | flowEntry
  | blockEntry
  | key
  | value
  | alias (name : List Char)
  | anchor (name : List Char)
  | tag (t : TagText)
  | scalar (text : List Char) (plain : Bool)
  deriving Repr, DecidableEq

/-- A failure at a token. -/
def refuse {α : Type} (f : TokenFault) : Except Fault α := .error (.token f)

/-- Passes over the rest of a line that may hold a comment and nothing else. -/
def restOfLine (f : TokenFault) (p : Cursor) : Except Fault Cursor :=
  let p := p.skipComment
  if isLineEnd p.peek then .ok p.lineBreak.2 else refuse f

/-- Reads the name of an anchor, an alias or a directive. -/
def readName (f : TokenFault) (p : Cursor) : Except Fault (List Char × Cursor) :=
  let (name, p) := p.span isNameChar
  if name.isEmpty then refuse f else .ok (name, p)

/-- Whether `c` can follow the name of an anchor. -/
def endsAnchor (c : Char) : Bool :=
  isWide c || ['?', ':', ',', ']', Char.ofNat 125, '%', '@', '`'].contains c

/-- Reads the name of an anchor or an alias, behind its mark. -/
def readAnchor (p : Cursor) : Except Fault (List Char × Cursor) := do
  let (name, p) ← readName .anchorName p.next
  if endsAnchor p.peek then return (name, p) else refuse .anchorName

/-- Reads bytes that are escaped with percent signs. -/
def readUriBytes : Nat → Cursor → List UInt8 → Except Fault (List UInt8 × Cursor)
  | 0, p, acc => .ok (acc.reverse, p)
  | fuel + 1, p, acc =>
    if p.peek = '%' then
      match Unicode.hexDigit? (p.peekAt 1), Unicode.hexDigit? (p.peekAt 2) with
      | some a, some b => readUriBytes fuel (p.skip 3) (UInt8.ofNat (16 * a + b) :: acc)
      | _, _ => refuse .uriEscape
    else .ok (acc.reverse, p)

/-- Whether `c` can stand in a tag. -/
def isUriChar (c : Char) : Bool :=
  c.isAlphanum || "-;/?:@&=+$,_.!~*'()[]".toList.contains c

/-- Reads the text of a tag, or of what a handle stands for. -/
def readUriFrom : Nat → Cursor → List (List Char) → Except Fault (List Char × Cursor)
  | 0, p, acc => .ok (acc.reverse.flatten, p)
  | fuel + 1, p, acc =>
    let (plain, q) := p.span isUriChar
    if !plain.isEmpty then readUriFrom fuel q (plain :: acc)
    else if p.peek = '%' then do
      let (bytes, q) ← readUriBytes (p.rest.length + 1) p []
      match Text.Utf8.decode bytes with
      | .ok cs => readUriFrom fuel q (cs :: acc)
      | .error _ => refuse .uriEscape
    else if acc.isEmpty then refuse .tagForm
    else .ok (acc.reverse.flatten, p)

/-- Reads the text of a tag, or of what a handle stands for. -/
def readUri (p : Cursor) : Except Fault (List Char × Cursor) := readUriFrom (p.rest.length + 2) p []

/-- Reads the handle of a tag: a name between exclamation marks, or one mark alone
before a blank. -/
def readHandle (p : Cursor) : Except Fault (List Char × Cursor) :=
  if p.peek ≠ '!' then refuse .tagForm
  else if p.peekAt 1 = ' ' then .ok (['!'], p.next)
  else
    let (name, q) := p.next.span isNameChar
    if q.peek = '!' then .ok ('!' :: name ++ ['!'], q.next) else refuse .tagForm

/-- Whether a second exclamation mark stands in the word. -/
def hasHandle (p : Cursor) : Bool :=
  (p.next.rest.takeWhile fun c => !isGap c).contains '!'

/-- Reads a tag. -/
def readTag (p : Cursor) : Except Fault (TagText × Cursor) := do
  let c := p.peekAt 1
  let (tag, p) ←
    if c = '<' then do
      let (uri, p) ← readUri (p.skip 2)
      if p.peek ≠ '>' then refuse .tagForm
      pure ((⟨none, uri⟩ : TagText), p.next)
    else if isWide c then pure (⟨none, ['!']⟩, p.next)
    else if hasHandle p then do
      let (handle, p) ← readHandle p
      let (uri, p) ← readUri p
      pure (⟨some handle, uri⟩, p)
    else do
      let (uri, p) ← readUri p.next
      pure (⟨some ['!'], uri⟩, p)
  if isGap p.peek then return (tag, p) else refuse .tagForm

/-- Reads one number of a version. -/
def readVersionNumber (p : Cursor) : Except Fault (Nat × Cursor) := do
  let (ds, q) := p.span Char.isDigit
  if ds.isEmpty then refuse .directive
  else
    match Number.whole 10 ds with
    | .ok n => return (n.toNat, q)
    | .error e => throw (.scalar (.number e))

/-- Reads a directive, behind its percent sign. -/
def readDirective (p : Cursor) : Except Fault (Directive × Cursor) := do
  let (name, p) ← readName .directive p
  if !isGap p.peek then refuse .directive
  let (d, p) ←
    if name = ['Y', 'A', 'M', 'L'] then do
      let (major, p) ← readVersionNumber (p.skipWhile (· = ' '))
      if p.peek ≠ '.' then refuse .directive
      let (minor, p) ← readVersionNumber p.next
      if !isGap p.peek then refuse .directive
      pure (Directive.version major minor, p)
    else if name = ['T', 'A', 'G'] then do
      let (handle, p) ← readHandle (p.skipWhile (· = ' '))
      if p.peek ≠ ' ' then refuse .directive
      let (target, p) ← readUri (p.skipWhile (· = ' '))
      if !isGap p.peek then refuse .directive
      pure (Directive.handle handle target, p)
    else pure (Directive.other, p.skipWhile fun c => !isLineEnd c)
  let p ← restOfLine .directive p
  return (d, p)

/-- How the line breaks at the end of a block scalar are kept. -/
inductive Chomping where
  | strip
  | clip
  | keep
  deriving Repr, DecidableEq

/-- The sign that says how line breaks at the end are kept. -/
def chomping? (c : Char) : Option Chomping :=
  if c = '+' then some .keep else if c = '-' then some .strip else none

/-- Reads an indentation, from one to nine. -/
def readIncrement (p : Cursor) : Except Fault (Option Nat × Cursor) :=
  let c := p.peek
  if c = '0' then refuse .blockHeader
  else if c.isDigit then .ok (some (c.toNat - 48), p.next)
  else .ok (none, p)

/-- Reads the head of a block scalar: the two signs in either order, and the rest of
the line. -/
def readBlockHeader (p : Cursor) : Except Fault ((Chomping × Option Nat) × Cursor) := do
  let (chomping, increment, p) ←
    match chomping? p.peek with
    | some ch => do
      let (n, p) ← readIncrement p.next
      pure (ch, n, p)
    | none => do
      let (n, p) ← readIncrement p
      if n.isNone then pure (Chomping.clip, n, p)
      else
        match chomping? p.peek with
        | some ch => pure (ch, n, p.next)
        | none => pure (Chomping.clip, n, p)
  if !isGap p.peek then refuse .blockHeader
  let p ← restOfLine .blockHeader p
  return ((chomping, increment), p)

/-- Reads the blank lines before a block scalar: the breaks, and the furthest column
reached. -/
def readLeadingBreaks : Nat → Cursor → List (List Char) → Nat →
    List (List Char) × Nat × Cursor
  | 0, p, acc, widest => (acc.reverse, widest, p)
  | fuel + 1, p, acc, widest =>
    if p.peek = ' ' then
      let p := p.next
      readLeadingBreaks fuel p acc (max widest p.column)
    else if isBreak p.peek then
      let (br, p) := p.lineBreak
      readLeadingBreaks fuel p (br :: acc) widest
    else (acc.reverse, widest, p)

/-- The place behind blanks, up to a column. -/
def skipIndent (indent : Nat) (p : Cursor) : Cursor :=
  p.skip (min (indent - p.column) (p.rest.takeWhile (· = ' ')).length)

/-- Reads blank lines inside a block scalar. -/
def readBlockBreaks (indent : Nat) : Nat → Cursor → List (List Char) →
    List (List Char) × Cursor
  | 0, p, acc => (acc.reverse, p)
  | fuel + 1, p, acc =>
    let p := skipIndent indent p
    if isBreak p.peek then
      let (br, p) := p.lineBreak
      readBlockBreaks indent fuel p (br :: acc)
    else (acc.reverse, p)

/-- Reads the lines of a block scalar; `breaks` are the blank lines before the next
one.  Gives the text, the last line break, and the blank lines behind it. -/
def readBlockLines (folded : Bool) (indent : Nat) :
    Nat → Cursor → List (List Char) → List (List Char) →
      List (List Char) × List Char × List (List Char) × Cursor
  | 0, p, breaks, acc => (acc, [], breaks, p)
  | fuel + 1, p, breaks, acc =>
    if p.column = indent ∧ p.peek ≠ endChar then
      let solid := !isLayout p.peek
      let (text, p) := p.span fun c => !isLineEnd c
      let acc := text :: breaks.reverse ++ acc
      let (br, p) := p.lineBreak
      let (breaks, p) := readBlockBreaks indent (p.rest.length + 1) p []
      if p.column = indent ∧ p.peek ≠ endChar then
        let fold := folded && br == ['\n'] && solid && !isLayout p.peek
        let acc := if fold then (if breaks.isEmpty then [' '] :: acc else acc) else br :: acc
        readBlockLines folded indent fuel p breaks acc
      else (acc, br, breaks, p)
    else (acc, [], breaks, p)

/-- Reads a block scalar behind its mark; `outer` is the indentation around it. -/
def readBlockScalar (folded : Bool) (outer : Int) (p : Cursor) :
    Except Fault (List Char × Cursor) := do
  let ((chomping, increment), p) ← readBlockHeader p.next
  let least := (max (outer + 1) 1).toNat
  let (breaks, indent, p) := match increment with
    | some n =>
      let indent := least + n - 1
      let (breaks, p) := readBlockBreaks indent (p.rest.length + 1) p []
      (breaks, indent, p)
    | none =>
      let (breaks, widest, p) := readLeadingBreaks (p.rest.length + 1) p [] 0
      (breaks, max least widest, p)
  let (acc, br, tail, p) := readBlockLines folded indent (p.rest.length + 1) p breaks []
  let acc := if chomping = .strip then acc else br :: acc
  let acc := if chomping = .keep then tail.reverse ++ acc else acc
  return (acc.reverse.flatten, p)

/-- The character that a letter behind a backslash stands for. -/
def escape? (c : Char) : Option Char :=
  [('0', 0), ('a', 7), ('b', 8), ('t', 9), ('\t', 9), ('n', 10), ('v', 11), ('f', 12),
    ('r', 13), ('e', 27), (' ', 32), ('"', 34), ('\\', 92), ('/', 47), ('N', 0x85),
    ('_', 0xA0), ('L', 0x2028), ('P', 0x2029)].lookup c |>.map Char.ofNat

/-- How many hexadecimal digits follow a letter behind a backslash. -/
def escapeWidth? (c : Char) : Option Nat := [('x', 2), ('u', 4), ('U', 8)].lookup c

/-- Reads the line breaks inside a quoted scalar, from the first character of a
line. -/
def readQuotedBreaks : Nat → Cursor → List (List Char) → Except Fault (List (List Char) × Cursor)
  | 0, p, acc => .ok (acc.reverse, p)
  | fuel + 1, p, acc =>
    if p.atAnyMark then refuse .documentMark
    else
      let p := p.skipWhile isLayout
      if isBreak p.peek then
        let (br, p) := p.lineBreak
        readQuotedBreaks fuel p (br :: acc)
      else .ok (acc.reverse, p)

/-- Reads blanks or line breaks inside a quoted scalar: blanks stand for themselves,
and a single line break for a blank. -/
def readQuotedGap (p : Cursor) : Except Fault (List Char × Cursor) :=
  let (blanks, q) := p.span isLayout
  if q.peek = endChar then refuse .openQuoted
  else if isBreak q.peek then do
    let (br, q) := q.lineBreak
    let (breaks, q) ← readQuotedBreaks (q.rest.length + 1) q []
    let first := if br ≠ ['\n'] then br else if breaks.isEmpty then [' '] else []
    return (first ++ breaks.flatten, q)
  else .ok (blanks, q)

/-- The half of a surrogate pair that is written as an escape, if one is. -/
def lowHalf? (p : Cursor) : Option Nat :=
  if p.peek = '\\' ∧ p.peekAt 1 = 'u' then
    let ds := (p.rest.drop 2).take 4
    let n := Unicode.hexNat ds
    if ds.length = 4 ∧ ds.all (fun c => (Unicode.hexDigit? c).isSome) ∧ 0xDC00 ≤ n ∧ n < 0xE000
    then some n else none
  else none

/-- Reads the character that a number stands for, at the place behind the number.  Two
halves of a surrogate pair are one character, and a half alone is none. -/
def readCodePoint (n : Nat) (p : Cursor) : Except Fault (Char × Cursor) :=
  if 0x80000000 ≤ n then .error (.scalar .characterSize)
  else if 0x110000 ≤ n then .error (.scalar .characterRange)
  else if 0xD800 ≤ n ∧ n < 0xDC00 then
    match lowHalf? p with
    | some m => .ok (Char.ofNat (0x10000 + (n - 0xD800) * 1024 + (m - 0xDC00)), p.skip 6)
    | none => .ok (Char.ofNat 0xFFFD, p)
  else if 0xDC00 ≤ n ∧ n < 0xE000 then .ok (Char.ofNat 0xFFFD, p)
  else .ok (Char.ofNat n, p)

/-- Reads what follows a backslash. -/
def readEscape (p : Cursor) : Except Fault (List Char × Cursor) :=
  let c := p.peek
  match escape? c with
  | some e => .ok ([e], p.next)
  | none =>
    match escapeWidth? c with
    | some width =>
      let ds := p.next.rest.take width
      if ds.length < width ∨ !(ds.all fun d => (Unicode.hexDigit? d).isSome) then refuse .escape
      else do
        let (e, p) ← readCodePoint (Unicode.hexNat ds) (p.skip (width + 1))
        return ([e], p)
    | none =>
      if isBreak c then do
        let p := p.lineBreak.2
        let (breaks, p) ← readQuotedBreaks (p.rest.length + 1) p []
        return (breaks.flatten, p)
      else refuse .escape

/-- Whether `c` stands for itself in every quoted scalar. -/
def isQuotedPlain (c : Char) : Bool := !(c = '\'' || c = '"' || c = '\\' || isWide c)

/-- Reads a quoted scalar behind its opening quote. -/
def readQuotedFrom (double : Bool) :
    Nat → Cursor → List (List Char) → Except Fault (List Char × Cursor)
  | 0, _, _ => refuse .openQuoted
  | fuel + 1, p, acc =>
    let c := p.peek
    if c = '\'' ∧ !double ∧ p.peekAt 1 = '\'' then
      readQuotedFrom double fuel (p.skip 2) (['\''] :: acc)
    else if c = (if double then '"' else '\'') then .ok (acc.reverse.flatten, p.next)
    else if c = '\\' ∧ double then do
      let (cs, p) ← readEscape p.next
      readQuotedFrom double fuel p (cs :: acc)
    else if c = '\'' ∨ c = '"' ∨ c = '\\' then readQuotedFrom double fuel p.next ([c] :: acc)
    else if isWide c then do
      let (cs, p) ← readQuotedGap p
      readQuotedFrom double fuel p (cs :: acc)
    else
      let (cs, p) := p.span isQuotedPlain
      readQuotedFrom double fuel p (cs :: acc)

/-- Reads a quoted scalar. -/
def readQuoted (double : Bool) (p : Cursor) : Except Fault (List Char × Cursor) :=
  readQuotedFrom double (p.rest.length + 1) p.next []

/-- Whether `c` ends a plain scalar inside a flow collection. -/
def isFlowMark (c : Char) : Bool :=
  [',', '?', '[', ']', Char.ofNat 123, Char.ofNat 125].contains c

/-- Whether a colon before `c` ends a plain scalar. -/
def endsKey (inFlow : Bool) (c : Char) : Bool :=
  isWide c || (inFlow && c ≠ '?' && isFlowMark c)

/-- The characters of a plain scalar up to a blank or its end. -/
def plainRun (inFlow : Bool) : List Char → List Char
  | [] => []
  | c :: cs =>
    if isWide c || (c = ':' && endsKey inFlow (cs.headD endChar)) || (inFlow && isFlowMark c)
    then []
    else c :: plainRun inFlow cs

/-- Reads the line breaks behind a part of a plain scalar, from the first character of a
line; none if a document ends there. -/
def readPlainBreaks : Nat → Cursor → List (List Char) → Option (List (List Char)) × Cursor
  | 0, p, acc => (some acc.reverse, p)
  | fuel + 1, p, acc =>
    let p := p.skipWhile (· = ' ')
    if isBreak p.peek then
      let (br, p) := p.lineBreak
      if p.atAnyMark then (none, p) else readPlainBreaks fuel p (br :: acc)
    else (some acc.reverse, p)

/-- What lies between two parts of a plain scalar: the text it stands for, and whether
a line ended. -/
structure PlainGap where
  text : List Char
  newLine : Bool

/-- Reads blanks or line breaks behind a part of a plain scalar. -/
def readPlainGap (p : Cursor) : PlainGap × Cursor :=
  let (blanks, p) := p.span (· = ' ')
  if isBreak p.peek then
    let (br, p) := p.lineBreak
    if p.atAnyMark then (⟨[], true⟩, p)
    else
      match readPlainBreaks (p.rest.length + 1) p [] with
      | (none, p) => (⟨[], true⟩, p)
      | (some breaks, p) =>
        let first := if br ≠ ['\n'] then br else if breaks.isEmpty then [' '] else []
        (⟨first ++ breaks.flatten, true⟩, p)
  else (⟨blanks, false⟩, p)

/-- A plain scalar, and whether the line ended behind its last part. -/
structure PlainText where
  text : List Char
  newLine : Bool

/-- Reads a plain scalar part by part; `indent` is the least column on further lines,
`gap` what lies before the next part. -/
def readPlainFrom (inFlow : Bool) (indent : Int) :
    Nat → Cursor → PlainGap → List (List Char) → PlainText × Cursor
  | 0, p, gap, acc => (⟨acc.reverse.flatten, gap.newLine⟩, p)
  | fuel + 1, p, gap, acc =>
    let run := if p.peek = '#' then [] else plainRun inFlow p.rest
    if run.isEmpty then (⟨acc.reverse.flatten, gap.newLine⟩, p)
    else
      let acc := run :: gap.text :: acc
      let (gap, p) := readPlainGap (p.skip run.length)
      if gap.text.isEmpty || p.peek = '#' || (!inFlow && (p.column : Int) < indent) then
        (⟨acc.reverse.flatten, gap.newLine⟩, p)
      else readPlainFrom inFlow indent fuel p gap acc

/-- Reads a plain scalar; `outer` is the indentation around it. -/
def readPlain (inFlow : Bool) (outer : Int) (p : Cursor) : PlainText × Cursor :=
  readPlainFrom inFlow (outer + 1) (p.rest.length + 1) p ⟨[], false⟩ []

end Yaml
end RegistryAuth
