import RegistryAuth.Console.Emoji
import RegistryAuth.Console.Style

/-!
# Markup

Text for the console may hold tags in brackets: an opening tag names a style, a closing
one begins with a slash and ends the last style of that name, or the last one at all if
it names none.  `Markup.render` gives the text that is seen; on a console without color
the styles only have to be closed in order.  A tag begins with a small letter or one of
three signs, so that `[1]` and `[Errno 2]` are plain text, and backslashes before it can
keep it from being one.  A tag that begins with an at sign carries data for programs.
-/

namespace RegistryAuth

/-- Why a text is no markup: a closing tag that ends nothing, or a color with a number that
cannot be read. -/
inductive MarkupError where
  | unmatched (tag : List Char) (position : Nat)
  | nothingOpen (position : Nat)
  | number (e : NumberError)
  deriving Repr, DecidableEq

/-- The words for the failure. -/
def MarkupError.message : MarkupError → String
  | .unmatched tag position =>
    "closing tag '[" ++ String.ofList tag ++ "]' at position " ++ toString position ++
      " doesn't match any open tag"
  | .nothingOpen position =>
    "closing tag '[/]' at position " ++ toString position ++ " has nothing to close"
  | .number e => e.message

namespace Markup

/-- A part of a text: plain, or a tag with its position. -/
inductive Piece where
  | plain (cs : List Char)
  | tag (position : Nat) (cs : List Char)
  deriving Repr, DecidableEq

/-- Whether a tag can begin with `c`. -/
def opensTag (c : Char) : Bool := ('a' ≤ c && c ≤ 'z') || c = '#' || c = '/' || c = '@'

/-- Reads a tag behind its bracket: what it holds, and what follows it. -/
def readTag? : List Char → Option (List Char × List Char)
  | [] => none
  | c :: cs =>
    if opensTag c then
      match cs.dropWhile fun c => c ≠ '[' ∧ c ≠ ']' with
      | ']' :: rest => some (c :: cs.takeWhile fun c => c ≠ '[' ∧ c ≠ ']', rest)
      | _ => none
    else none

/-- Reads backslashes and the tag behind them: how many backslashes, the tag, and what
follows it. -/
def readEscaped? (cs : List Char) : Option (Nat × List Char × List Char) :=
  match cs.dropWhile (· = '\\') with
  | '[' :: rest =>
    (readTag? rest).map fun (tag, left) => ((cs.takeWhile (· = '\\')).length, tag, left)
  | _ => none

/-- A plain piece, unless it is empty. -/
def plainPiece (cs : List Char) : List Piece := if cs.isEmpty then [] else [.plain cs]

/-- The pieces of backslashes and a tag: two backslashes are one, and one that is left
makes the tag plain. -/
def escapedPieces (position escapes : Nat) (tag : List Char) : List Piece :=
  plainPiece (List.replicate (escapes / 2) '\\') ++
    if escapes % 2 = 1 then [.plain ('[' :: tag ++ [']'])]
    else [.tag (position + escapes) tag]

theorem readTag?_length {cs tag left : List Char} (h : readTag? cs = some (tag, left)) :
    left.length < cs.length := by
  unfold readTag? at h
  split at h
  · simp at h
  · next c cs =>
    split at h
    · split at h
      · next rest hr =>
        simp only [Option.some.injEq, Prod.mk.injEq] at h
        have hs := (List.dropWhile_sublist (l := cs) fun c => c ≠ '[' ∧ c ≠ ']').length_le
        rw [hr] at hs
        rw [← h.2]
        simp only [List.length_cons] at hs ⊢
        omega
      · simp at h
    · simp at h

theorem readEscaped?_length {cs tag left : List Char} {n : Nat}
    (h : readEscaped? cs = some (n, tag, left)) : left.length < cs.length := by
  unfold readEscaped? at h
  split at h
  · next rest hr =>
    obtain ⟨⟨t, l⟩, ht, he⟩ := Option.map_eq_some_iff.1 h
    simp only [Prod.mk.injEq] at he
    obtain ⟨-, -, rfl⟩ := he
    have h1 := readTag?_length ht
    have h2 := (List.dropWhile_sublist (l := cs) (· = '\\')).length_le
    rw [hr] at h2
    simp only [List.length_cons] at h2
    omega
  · simp at h

/-- The pieces of a text from a position on; `before` is the plain text that precedes it,
in reverse. -/
def piecesFrom (position : Nat) (before : List Char) : List Char → List Piece
  | [] => plainPiece before.reverse
  | c :: cs =>
    match _h : readEscaped? (c :: cs) with
    | some (escapes, tag, left) =>
      plainPiece before.reverse ++ escapedPieces position escapes tag ++
        piecesFrom (position + escapes + tag.length + 2) [] left
    | none => piecesFrom (position + 1) (c :: before) cs
termination_by cs => cs.length
decreasing_by
  · exact readEscaped?_length _h
  · simp only [List.length_cons]; omega

/-- The pieces of a text. -/
def pieces (cs : List Char) : List Piece := piecesFrom 0 [] cs

/-- What a tag is known by: the style that it names, or its words if they name none. -/
inductive TagName where
  | style (s : Style)
  | other (name : List Char)
  deriving Repr, DecidableEq

/-- The name of a tag. -/
def TagName.ofText (cs : List Char) : Except MarkupError TagName :=
  match Style.parse? cs with
  | .error e => .error (.number e)
  | .ok (some s) => .ok (.style s)
  | .ok none => .ok (.other (Unicode.lower (Text.trim cs)))

/-- The brackets of a text without the backslash before them. -/
def dropEscapes : List Char → List Char
  | '\\' :: '[' :: cs => '[' :: dropEscapes cs
  | c :: cs => c :: dropEscapes cs
  | [] => []

/-- The open tags after a tag; the last one opened comes first. -/
def follow (openTags : List TagName) (position : Nat) (tag : List Char) :
    Except MarkupError (List TagName) :=
  match tag.takeWhile (· ≠ '=') with
  | '/' :: name =>
    if (Text.trim name).isEmpty then
      match openTags with
      | [] => .error (.nothingOpen position)
      | _ :: rest => .ok rest
    else
      match TagName.ofText (Text.trim name) with
      | .error e => .error e
      | .ok name =>
        if openTags.contains name then .ok (openTags.erase name)
        else .error (.unmatched tag position)
  | name => (TagName.ofText name).map (· :: openTags)

/-- The text of pieces, under open tags. -/
def textOf (openTags : List TagName) : List Piece → Except MarkupError (List Char)
  | [] => .ok []
  | .plain cs :: rest =>
    (textOf openTags rest).map (Emoji.replaceCodes (dropEscapes cs) ++ ·)
  | .tag position tag :: rest =>
    match follow openTags position tag with
    | .error e => .error e
    | .ok openTags => textOf openTags rest

/-- The controls that a console takes out of a text: bell, backspace, vertical tab, form
feed and carriage return. -/
def isDropped (c : Char) : Bool := [7, 8, 11, 12, 13].contains c.toNat

/-- A text without those controls. -/
def dropControls (cs : List Char) : List Char := cs.filter fun c => !isDropped c

/-- The text that is seen. -/
def render (cs : List Char) : Except MarkupError (List Char) :=
  (textOf [] (pieces cs)).map dropControls

end Markup
end RegistryAuth
