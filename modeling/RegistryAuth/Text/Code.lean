import RegistryAuth.Text.Quoted

/-!
# Texts with lone halves

A document can write half of a surrogate pair without the other half, as an escape or with
the bytes that would stand for it.  Such a half is no character.  A text that holds one is
read, kept and compared like any other, and a message shows it as an escape, but no
character set has bytes for it.

`CodeText` is a text of either kind.  Each text is in just one form: the one that is
`broken` is cut at its first half, so that its front is made of characters.
-/

namespace RegistryAuth

/-- Half of a surrogate pair, counted from the first one. -/
abbrev Half := Fin 0x800

/-- A code point: a character, or half of a pair. -/
inductive Code where
  | char (c : Char)
  | half (h : Half)
  deriving Repr, DecidableEq

namespace Code

/-- The number of a code point. -/
def toNat : Code → Nat
  | .char c => c.toNat
  | .half h => 0xD800 + h.val

/-- The code point of a number. -/
def ofNat (n : Nat) : Code :=
  if h : 0xD800 ≤ n ∧ n < 0xE000 then .half ⟨n - 0xD800, by omega⟩ else .char (Char.ofNat n)

/-- What is shown where only a character can stand; for a half, the replacement
character. -/
def shown : Code → Char
  | .char c => c
  | .half _ => Char.ofNat 0xFFFD

end Code

/-- A text of characters, or one that holds a half, with the characters before the first
one. -/
inductive CodeText where
  | whole (s : String)
  | broken (front : String) (half : Half) (rest : List Code)
  deriving Repr, DecidableEq, Inhabited

instance : Coe String CodeText := ⟨.whole⟩

namespace CodeText

/-- The code points of a text. -/
def codes : CodeText → List Code
  | .whole s => s.toList.map .char
  | .broken front half rest => front.toList.map .char ++ .half half :: rest

/-- The characters up to the first half, and the half with what stands behind it. -/
def cutAtHalf : List Code → List Char × Option (Half × List Code)
  | [] => ([], none)
  | .half h :: rest => ([], some (h, rest))
  | .char c :: rest =>
    let (front, back) := cutAtHalf rest
    (c :: front, back)

/-- The text of code points. -/
def ofCodes (cs : List Code) : CodeText :=
  match cutAtHalf cs with
  | (front, none) => .whole (String.ofList front)
  | (front, some (half, rest)) => .broken (String.ofList front) half rest

/-- Whether the text is empty. -/
def isEmpty : CodeText → Bool
  | .whole s => s.isEmpty
  | .broken .. => false

/-- The text with other characters in its front. -/
def mapFront (f : String → String) : CodeText → CodeText
  | .whole s => .whole (f s)
  | .broken front half rest => .broken (f front) half rest

/-- The text as far as characters can show it. -/
def shown : CodeText → String
  | .whole s => s
  | t => String.ofList (t.codes.map Code.shown)

/-- The text in quotes. -/
def quoted : CodeText → List Char
  | .whole s => Text.quoted s.toList
  | t => Text.quotedCodes (t.codes.map Code.toNat)

@[simp] theorem codes_whole (s : String) : (whole s).codes = s.toList.map .char := rfl

@[simp] theorem shown_whole (s : String) : (whole s).shown = s := rfl

theorem cutAtHalf_chars (cs : List Char) : cutAtHalf (cs.map .char) = (cs, none) := by
  induction cs with
  | nil => rfl
  | cons c cs ih => simp only [List.map_cons, cutAtHalf, ih]

/-- Characters make up a whole text. -/
@[simp] theorem ofCodes_chars (cs : List Char) :
    ofCodes (cs.map .char) = .whole (String.ofList cs) := by
  simp only [ofCodes, cutAtHalf_chars]

end CodeText
end RegistryAuth
