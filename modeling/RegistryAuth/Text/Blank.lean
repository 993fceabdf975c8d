import RegistryAuth.Text.Cut

/-!
# Blanks

Headers, passphrases and the output of credential programs are read without the
blanks around them.  A blank is any separator of the character set and any of the
control characters that end a line, a field or a record; `ltrim` and `trim` remove
them.
-/

namespace RegistryAuth
namespace Text

/-- The code points of blanks: the ASCII controls from tab to carriage return and
from file to unit separator, the blank itself, the next-line control, and the
separators beyond ASCII. -/
def isBlankCode (n : Nat) : Bool :=
  (9 ≤ n && n ≤ 13) || (28 ≤ n && n ≤ 32) || n = 0x85 || n = 0xA0 || n = 0x1680 ||
    (0x2000 ≤ n && n ≤ 0x200A) || n = 0x2028 || n = 0x2029 || n = 0x202F || n = 0x205F ||
    n = 0x3000

/-- Whether `c` is a blank. -/
def isBlank (c : Char) : Bool := isBlankCode c.toNat

/-- Without the blanks at the front. -/
def ltrim (cs : List Char) : List Char := cs.dropWhile isBlank

/-- Without the blanks at the end. -/
def rtrim (cs : List Char) : List Char := (cs.reverse.dropWhile isBlank).reverse

/-- Without the blanks at both ends. -/
def trim (cs : List Char) : List Char := trimBoth isBlank cs

/-- Without the blanks at both ends. -/
def trimString (s : String) : String := String.ofList (trim s.toList)

/-- The words of a text, which have blanks between them. -/
def words (cs : List Char) : List (List Char) :=
  (splitWhere isBlank cs).filter fun word => !word.isEmpty

/-- What core counts as white space is a blank. -/
theorem isBlank_of_isWhitespace {c : Char} (h : c.isWhitespace = true) : isBlank c = true := by
  simp only [Char.isWhitespace, Bool.or_eq_true, decide_eq_true_eq] at h
  rcases h with ((rfl | rfl) | rfl) | rfl <;> rfl

end Text
end RegistryAuth
