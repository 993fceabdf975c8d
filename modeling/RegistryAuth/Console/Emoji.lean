import RegistryAuth.Console.EmojiNames
import RegistryAuth.Text.Blank
import RegistryAuth.Unicode.LetterCase

/-!
# Emoji codes

A name between two colons stands for an emoji; `-emoji` or `-text` behind the name asks
for its picture or its plain form.  What is no name stays as it is.
-/

namespace RegistryAuth
namespace Emoji

/-- The front of a text up to its first colon, and what follows the colon; there is none
if a blank comes first. -/
def untilColon? (cs : List Char) : Option (List Char × List Char) :=
  match cs.dropWhile fun c => c ≠ ':' ∧ !Text.isBlank c with
  | ':' :: rest => some (cs.takeWhile fun c => c ≠ ':' ∧ !Text.isBlank c, rest)
  | _ => none

/-- A name without its ending, and the selector that the ending asks for. -/
def splitVariant (name : List Char) : List Char × List Char :=
  match Text.dropFront? "ijome-".toList name.reverse with
  | some front => (front.reverse, [Char.ofNat 0xFE0F])
  | none =>
    match Text.dropFront? "txet-".toList name.reverse with
    | some front => (front.reverse, [Char.ofNat 0xFE0E])
    | none => (name, [])

/-- The emoji that a code between colons stands for. -/
def ofCode? (code : List Char) : Option (List Char) :=
  let (name, selector) := splitVariant code
  (find? (Unicode.lower name)).map (· ++ selector)

theorem untilColon?_length {cs code rest : List Char} (h : untilColon? cs = some (code, rest)) :
    rest.length < cs.length := by
  unfold untilColon? at h
  split at h
  · next r hr =>
    simp only [Option.some.injEq, Prod.mk.injEq] at h
    have hs := (List.dropWhile_sublist (l := cs) fun c => c ≠ ':' ∧ !Text.isBlank c).length_le
    rw [hr] at hs
    rw [← h.2]
    simp only [List.length_cons] at hs
    omega
  · simp at h

/-- The text with its emoji codes replaced. -/
def replaceCodes : List Char → List Char
  | [] => []
  | c :: cs =>
    if c = ':' then
      match _h : untilColon? cs with
      | some (code, rest) => (ofCode? code).getD (':' :: code ++ [':']) ++ replaceCodes rest
      | none => c :: replaceCodes cs
    else c :: replaceCodes cs
termination_by cs => cs.length
decreasing_by
  · have := untilColon?_length _h
    simp only [List.length_cons]; omega
  all_goals simp only [List.length_cons]; omega

end Emoji
end RegistryAuth
