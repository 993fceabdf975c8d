import Mathlib
import RegistryAuth.Console.Markup
import RegistryAuth.Proofs.Console.Style
import RegistryAuth.Proofs.Except

/-!
# Text that is no markup

Where no bracket begins a tag, the whole text is plain (`Markup.pieces_of_untagged`), so that it
can always be read: what is seen is the text with its emoji in place of their codes, and without
backslashes before brackets and the controls that a console drops
(`Markup.render_of_untagged`).  A text that holds none of these either is literal
(`Markup.IsLiteral`): it is seen as it stands (`Markup.render_of_isLiteral`).  The
first tag decides whether a text can be read at all where it closes nothing, or is a color without
its numbers (`Markup.render_of_follow_error`).
-/

namespace RegistryAuth
namespace Markup

variable {cs : List Char}

/-- No bracket begins a tag. -/
def IsUntagged (cs : List Char) : Prop :=
  ∀ before after, cs = before ++ '[' :: after → readTag? after = none

/-- Nothing in the text stands for anything but itself. -/
structure IsLiteral (cs : List Char) : Prop where
  untagged : IsUntagged cs
  unescaped : ∀ before after, cs ≠ before ++ '\\' :: '[' :: after
  uncoded : ∀ before code after, cs = before ++ ':' :: (code ++ ':' :: after) →
    (∀ c ∈ code, c ≠ ':' ∧ Text.isBlank c = false) → Emoji.ofCode? code = none
  kept : ∀ c ∈ cs, isDropped c = false

/-- The markup can be read. -/
def IsReadable (cs : List Char) : Prop := ∃ shown, render cs = .ok shown

theorem isUntagged_of_not_mem (h : '[' ∉ cs) : IsUntagged cs := by
  rintro before after rfl
  exact absurd (List.mem_append_right _ List.mem_cons_self) h

theorem IsUntagged.of_cons {c : Char} (h : IsUntagged (c :: cs)) : IsUntagged cs :=
  fun before after hcs => h (c :: before) after (by rw [hcs, List.cons_append])

theorem IsLiteral.of_cons {c : Char} (h : IsLiteral (c :: cs)) : IsLiteral cs where
  untagged := h.untagged.of_cons
  unescaped before after hcs := h.unescaped (c :: before) after (by rw [hcs, List.cons_append])
  uncoded before code after hcs :=
    h.uncoded (c :: before) code after (by rw [hcs, List.cons_append])
  kept d hd := h.kept d (List.mem_cons_of_mem c hd)

/-! ## Tags -/

theorem readEscaped?_of_untagged (h : IsUntagged cs) : readEscaped? cs = none := by
  rw [readEscaped?]
  split
  · rename_i rest hrest
    have htext : cs = cs.takeWhile (· = '\\') ++ '[' :: rest := by
      rw [← hrest, List.takeWhile_append_dropWhile]
    rw [h _ rest htext, Option.map_none]
  · rfl

theorem piecesFrom_of_untagged (h : IsUntagged cs) (position : Nat) (before : List Char) :
    piecesFrom position before cs = plainPiece (before.reverse ++ cs) := by
  induction cs generalizing position before with
  | nil => rw [piecesFrom, List.append_nil]
  | cons c cs ih =>
    rw [piecesFrom]
    split
    · rename_i hread
      rw [readEscaped?_of_untagged h] at hread
      cases hread
    · rw [ih h.of_cons, List.reverse_cons, List.append_assoc, List.singleton_append]

/-- A text in which no bracket begins a tag is one piece. -/
theorem pieces_of_untagged (h : IsUntagged cs) : pieces cs = plainPiece cs :=
  piecesFrom_of_untagged h 0 []

/-- A text in which no bracket begins a tag can be read. -/
theorem render_of_untagged (h : IsUntagged cs) :
    render cs = .ok (dropControls (Emoji.replaceCodes (dropEscapes cs))) := by
  rw [render, pieces_of_untagged h, plainPiece]
  cases cs with
  | nil => rw [dropEscapes, Emoji.replaceCodes]; rfl
  | cons c cs =>
    rw [if_neg (by simp), textOf, textOf]
    simp [Except.map]

theorem IsUntagged.isReadable (h : IsUntagged cs) : IsReadable cs := ⟨_, render_of_untagged h⟩

theorem piecesFrom_of_tag {c : Char} {escapes : Nat} {tag left : List Char}
    (h : readEscaped? (c :: cs) = some (escapes, tag, left)) (position : Nat) (before : List Char) :
    piecesFrom position before (c :: cs) =
      plainPiece before.reverse ++ escapedPieces position escapes tag ++
        piecesFrom (position + escapes + tag.length + 2) [] left := by
  rw [piecesFrom]
  split
  · rename_i hread
    rw [h] at hread
    cases hread
    rfl
  · rename_i hread
    rw [h] at hread
    cases hread

theorem piecesFrom_append {front : List Char} (h : ∀ c ∈ front, c ≠ '[' ∧ c ≠ '\\')
    (position : Nat) (before : List Char) :
    piecesFrom position before (front ++ cs) =
      piecesFrom (position + front.length) (front.reverse ++ before) cs := by
  induction front generalizing position before with
  | nil => rfl
  | cons c front ih =>
    obtain ⟨⟨hbracket, hbackslash⟩, hfront⟩ := List.forall_mem_cons.mp h
    have hread : readEscaped? (c :: (front ++ cs)) = none := by
      rw [readEscaped?, List.dropWhile_cons_of_neg (by simpa using hbackslash)]
      split
      · rename_i heq
        exact absurd (List.cons.inj heq).1 hbracket
      · rfl
    rw [List.cons_append, piecesFrom]
    split
    · rename_i hsome
      rw [hread] at hsome
      cases hsome
    · rw [ih hfront, List.length_cons, List.reverse_cons, List.append_assoc, Nat.add_assoc,
        Nat.add_comm 1]
      rfl

/-- A tag without a slash in front opens a style, or something else that can be closed. -/
theorem follow_of_open {tag : List Char} (name : List Char) (hname : tag.takeWhile (· ≠ '=') = name)
    (hslash : name.head? ≠ some '/') (openTags : List TagName) (position : Nat) :
    follow openTags position tag = (TagName.ofText name).map (· :: openTags) := by
  simp only [follow, hname]
  split
  · exact absurd rfl hslash
  · rfl

/-- A text cannot be read if its first tag cannot be followed. -/
theorem render_of_follow_error {front : List Char} (tag : List Char) {e : Nat → MarkupError}
    (h : ∀ c ∈ front, c ≠ '[' ∧ c ≠ '\\')
    (hread : readEscaped? ('[' :: (tag ++ ']' :: cs)) = some (0, tag, cs))
    (hfollow : ∀ position, follow [] position tag = .error (e position)) :
    render (front ++ '[' :: (tag ++ ']' :: cs)) = .error (e front.length) := by
  have htag (rest : List Piece) :
      textOf [] (escapedPieces (0 + front.length) 0 tag ++ rest) = .error (e front.length) := by
    rw [Nat.zero_add]
    change textOf [] (.tag front.length tag :: rest) = _
    rw [textOf, hfollow]
  rw [render, pieces, piecesFrom_append h, piecesFrom_of_tag hread, plainPiece]
  split
  · rw [List.nil_append, htag]
    rfl
  · rw [List.append_assoc, List.singleton_append, textOf, htag]
    rfl

/-- A text cannot be read if its first tag is a color without its numbers. -/
theorem render_numberless {front : List Char} (h : ∀ c ∈ front, c ≠ '[' ∧ c ≠ '\\')
    (cs : List Char) :
    render (front ++ '[' :: (Style.numberless ++ ']' :: cs)) =
      .error (.number (.notWhole 10 [])) := by
  refine render_of_follow_error Style.numberless (e := fun _ => .number (.notWhole 10 []))
    h rfl fun position => ?_
  rw [follow_of_open Style.numberless (by decide) (by decide), TagName.ofText,
    Style.parse?_numberless]
  rfl

/-- A text cannot be read if its first tag closes the last one. -/
theorem render_closing {front : List Char} (h : ∀ c ∈ front, c ≠ '[' ∧ c ≠ '\\')
    (cs : List Char) :
    render (front ++ '[' :: '/' :: ']' :: cs) = .error (.nothingOpen front.length) :=
  render_of_follow_error ['/'] h rfl fun _ => rfl

/-! ## Texts that stand for themselves -/

theorem dropEscapes_of_isLiteral (h : IsLiteral cs) : dropEscapes cs = cs := by
  fun_induction dropEscapes cs with
  | case1 cs ih => exact absurd rfl (h.unescaped [] cs)
  | case2 c cs hescape ih => rw [ih h.of_cons]
  | case3 => rfl

theorem eq_of_untilColon? {code rest : List Char} (h : Emoji.untilColon? cs = some (code, rest)) :
    cs = code ++ ':' :: rest ∧ ∀ c ∈ code, c ≠ ':' ∧ Text.isBlank c = false := by
  rw [Emoji.untilColon?] at h
  split at h
  · rename_i left hleft
    obtain ⟨rfl, rfl⟩ := Prod.mk.inj (Option.some.inj h)
    refine ⟨?_, fun c hc => ?_⟩
    · rw [← hleft, List.takeWhile_append_dropWhile]
    · simpa using List.mem_takeWhile_imp hc
  · cases h

theorem IsLiteral.of_append (before : List Char) (h : IsLiteral (before ++ cs)) : IsLiteral cs := by
  induction before with
  | nil => exact h
  | cons c before ih => exact ih h.of_cons

theorem replaceCodes_of_isLiteral (h : IsLiteral cs) : Emoji.replaceCodes cs = cs := by
  fun_induction Emoji.replaceCodes cs with
  | case1 => rfl
  | case2 cs code rest hcode ih =>
    obtain ⟨rfl, hall⟩ := eq_of_untilColon? hcode
    rw [h.uncoded [] code rest rfl hall, Option.getD_none,
      ih (IsLiteral.of_append (':' :: code ++ [':']) (by simpa using h))]
    simp
  | case3 cs hcode ih => rw [ih h.of_cons]
  | case4 c cs hcolon ih => rw [ih h.of_cons]

/-- A literal text is seen as it stands. -/
theorem render_of_isLiteral (h : IsLiteral cs) : render cs = .ok cs := by
  rw [render_of_untagged h.untagged, dropEscapes_of_isLiteral h, replaceCodes_of_isLiteral h,
    dropControls, List.filter_eq_self.mpr fun c hc => by simp [h.kept c hc]]

theorem IsLiteral.isReadable (h : IsLiteral cs) : IsReadable cs := ⟨cs, render_of_isLiteral h⟩

end Markup
end RegistryAuth
