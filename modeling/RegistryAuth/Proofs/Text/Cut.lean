import Mathlib.Data.List.TakeWhile
import RegistryAuth.Text.Cut

/-!
# Cutting texts that were put together

A text that is put together from parts is cut into these parts again, if the parts hold
nothing that is cut at.  One lemma for each way of cutting:

* `cut?_append`, `cutLast?_append`: at the first or the last character of a kind;
* `takeWhile_append_of_head`, `dropWhile_append_of_head`: where a run of characters ends;
* `trimBoth_eq_self`, `trimBoth_append`: at the ends;
* `cutText?_append`, `cutText?_eq_none`: at the first place where another text stands;
* `splitOn_intercalate`, `intercalate_splitOn`: at each of the separators between the parts.

What stands in a text that is joined from parts stands in one of them or between them
(`mem_intercalate`).
-/

namespace RegistryAuth
namespace Text

variable {p : Char → Bool}

/-- A text is not cut at a character that it lacks. -/
theorem decide_eq_false_of_not_mem {d : Char} {cs : List Char} (h : d ∉ cs) :
    ∀ c ∈ cs, decide (c = d) = false := by
  intro c hc
  rw [decide_eq_false_iff_not]
  rintro rfl
  exact h hc

/-- A text is cut at the first place where it can be. -/
theorem cut?_append {front : List Char} {c : Char} (hfront : ∀ x ∈ front, p x = false)
    (hc : p c = true) (rest : List Char) : cut? p (front ++ c :: rest) = some (front, rest) := by
  induction front with
  | nil => simp [cut?, hc]
  | cons x front ih =>
    obtain ⟨hx, hfront⟩ := List.forall_mem_cons.mp hfront
    simp [cut?, hx, ih hfront]

/-- A text is cut at the last place where it can be. -/
theorem cutLast?_append {rest : List Char} {c : Char} (hrest : ∀ x ∈ rest, p x = false)
    (hc : p c = true) (front : List Char) :
    cutLast? p (front ++ c :: rest) = some (front, rest) := by
  induction front with
  | nil => simp [cutLast?, cutLast?_eq_none_iff.mpr hrest, hc]
  | cons x front ih => simp [cutLast?, ih]

/-- A run ends where a character follows that does not belong to it. -/
theorem takeWhile_append_of_head {front rest : List Char} (hfront : ∀ x ∈ front, p x = true)
    (hrest : ∀ c, rest.head? = some c → p c = false) : (front ++ rest).takeWhile p = front := by
  rw [List.takeWhile_append_of_pos hfront]
  cases rest with
  | nil => simp
  | cons c rest => rw [List.takeWhile_cons_of_neg (by simp [hrest c rfl]), List.append_nil]

/-- Behind a run stands what does not belong to it. -/
theorem dropWhile_append_of_head {front rest : List Char} (hfront : ∀ x ∈ front, p x = true)
    (hrest : ∀ c, rest.head? = some c → p c = false) : (front ++ rest).dropWhile p = rest := by
  rw [List.dropWhile_append_of_pos hfront]
  cases rest with
  | nil => rfl
  | cons c rest => rw [List.dropWhile_cons_of_neg (by simp [hrest c rfl])]

/-- A text is trimmed up to its ends, if nothing stands there that could be trimmed. -/
theorem trimBoth_append_of_ends {front cs back : List Char} (hfront : ∀ x ∈ front, p x = true)
    (hback : ∀ x ∈ back, p x = true) (hhead : ∀ c, cs.head? = some c → p c = false)
    (hlast : ∀ c, cs.getLast? = some c → p c = false) : trimBoth p (front ++ cs ++ back) = cs := by
  cases cs with
  | nil =>
    have hall : ∀ x ∈ front ++ [] ++ back, p x = true := by
      simpa [or_imp, forall_and] using ⟨hfront, hback⟩
    rw [trimBoth, List.dropWhile_eq_nil_iff.mpr hall]
    rfl
  | cons c cs =>
    have hdrop : (front ++ (c :: cs ++ back)).dropWhile p = c :: cs ++ back :=
      dropWhile_append_of_head hfront hhead
    have hrest : (back.reverse ++ (c :: cs).reverse).dropWhile p = (c :: cs).reverse :=
      dropWhile_append_of_head (by simpa using hback) fun d hd =>
        hlast d (by rwa [List.head?_reverse] at hd)
    rw [trimBoth, List.append_assoc, hdrop, List.reverse_append, hrest, List.reverse_reverse]

/-- Nothing is trimmed where nothing stands at the ends that could be. -/
theorem trimBoth_eq_self {cs : List Char} (hhead : ∀ c, cs.head? = some c → p c = false)
    (hlast : ∀ c, cs.getLast? = some c → p c = false) : trimBoth p cs = cs := by
  have htrim := trimBoth_append_of_ends (List.forall_mem_nil _) (List.forall_mem_nil _) hhead hlast
  rwa [List.nil_append, List.append_nil] at htrim

/-- What stands around a text is trimmed from it, and nothing else. -/
theorem trimBoth_append {front cs back : List Char} (hfront : ∀ x ∈ front, p x = true)
    (hback : ∀ x ∈ back, p x = true) (hcs : ∀ x ∈ cs, p x = false) :
    trimBoth p (front ++ cs ++ back) = cs :=
  trimBoth_append_of_ends hfront hback (fun c hc => hcs c (List.mem_of_mem_head? hc))
    fun c hc => hcs c (List.mem_of_getLast? hc)

theorem mem_dropWhile {cs : List Char} {c : Char} (hc : c ∈ cs) (hp : p c = false) :
    c ∈ cs.dropWhile p := by
  rw [← List.takeWhile_append_dropWhile (p := p) (l := cs), List.mem_append] at hc
  refine hc.resolve_left fun htake => ?_
  rw [List.mem_takeWhile_imp htake] at hp
  cases hp

/-- What is not trimmed away stays. -/
theorem mem_trimBoth {cs : List Char} {c : Char} (hc : c ∈ cs) (hp : p c = false) :
    c ∈ trimBoth p cs := by
  rw [trimBoth, List.mem_reverse]
  exact mem_dropWhile (List.mem_reverse.mpr (mem_dropWhile hc hp)) hp

/-- Trimming adds nothing. -/
theorem mem_of_mem_trimBoth {cs : List Char} {c : Char} (hc : c ∈ trimBoth p cs) : c ∈ cs := by
  rw [trimBoth, List.mem_reverse] at hc
  have hback := (List.dropWhile_sublist p).subset hc
  exact (List.dropWhile_sublist p).subset (List.mem_reverse.mp hback)

theorem splitOn_append {sep : Char} {front : List Char} (h : sep ∉ front) (rest : List Char) :
    splitOn sep (front ++ sep :: rest) = front :: splitOn sep rest := by
  induction front with
  | nil => rw [List.nil_append, splitOn, if_pos rfl]
  | cons c front ih =>
    rw [List.mem_cons, not_or] at h
    rw [List.cons_append, splitOn, if_neg (Ne.symm h.1), ih h.2]

theorem splitOn_eq_singleton {sep : Char} {cs : List Char} (h : sep ∉ cs) :
    splitOn sep cs = [cs] := by
  induction cs with
  | nil => rfl
  | cons c cs ih =>
    rw [List.mem_cons, not_or] at h
    rw [splitOn, if_neg (Ne.symm h.1), ih h.2]

/-- Parts that are joined at a separator are cut apart at it, if they do not hold it. -/
theorem splitOn_intercalate {sep : Char} {parts : List (List Char)} (hne : parts ≠ [])
    (hparts : ∀ part ∈ parts, sep ∉ part) :
    splitOn sep (List.intercalate [sep] parts) = parts := by
  induction parts with
  | nil => exact absurd rfl hne
  | cons part parts ih =>
    obtain ⟨hpart, hparts⟩ := List.forall_mem_cons.mp hparts
    cases parts with
    | nil => rw [List.intercalate_singleton, splitOn_eq_singleton hpart]
    | cons next parts =>
      rw [List.intercalate_cons_cons, List.append_assoc, List.singleton_append,
        splitOn_append hpart, ih (List.cons_ne_nil _ _) hparts]

/-- The parts of a text, joined at the separators, are the text again. -/
theorem intercalate_splitOn (sep : Char) (cs : List Char) :
    List.intercalate [sep] (splitOn sep cs) = cs := by
  induction cs with
  | nil => rfl
  | cons c cs ih =>
    obtain ⟨part, parts, hsplit⟩ := List.exists_cons_of_ne_nil (splitOn_ne_nil sep cs)
    rw [hsplit] at ih
    rw [splitOn, hsplit]
    split
    · next hc =>
      rw [List.intercalate_cons_cons, ih, hc]
      rfl
    · rw [← ih]
      cases parts <;> simp [List.intercalate]

/-- What stands in front of a text and holds no separator stands in front of its first part. -/
theorem exists_splitOn_append {sep : Char} {front : List Char} (h : sep ∉ front) (cs : List Char) :
    ∃ part parts, splitOn sep (front ++ cs) = (front ++ part) :: parts := by
  induction front with
  | nil => exact List.exists_cons_of_ne_nil (splitOn_ne_nil sep cs)
  | cons c front ih =>
    obtain ⟨hc, hfront⟩ := not_or.mp (mt List.mem_cons.mpr h)
    obtain ⟨part, parts, hsplit⟩ := ih hfront
    rw [List.cons_append, splitOn, if_neg (Ne.symm hc), hsplit]
    exact ⟨part, parts, rfl⟩

/-- A character that is no separator stands at the front of the first part. -/
theorem exists_splitOn_cons {sep c : Char} (hc : c ≠ sep) (cs : List Char) :
    ∃ part parts, splitOn sep (c :: cs) = (c :: part) :: parts :=
  exists_splitOn_append (by simpa using Ne.symm hc : sep ∉ [c]) cs

/-- A part holds nothing but characters of the text. -/
theorem mem_of_mem_splitOn {sep : Char} {cs part : List Char} {c : Char}
    (hpart : part ∈ Text.splitOn sep cs) (hc : c ∈ part) : c ∈ cs := by
  induction cs generalizing part with
  | nil =>
    rw [Text.splitOn, List.mem_singleton] at hpart
    rwa [hpart] at hc
  | cons d cs ih =>
    rw [Text.splitOn] at hpart
    split at hpart
    · rcases List.mem_cons.mp hpart with rfl | hpart
      · cases hc
      · exact List.mem_cons_of_mem d (ih hpart hc)
    · obtain ⟨first, parts, hsplit⟩ := List.exists_cons_of_ne_nil (Text.splitOn_ne_nil sep cs)
      rw [hsplit] at ih hpart
      rcases List.mem_cons.mp hpart with rfl | hpart
      · rcases List.mem_cons.mp hc with rfl | hc
        · exact List.mem_cons_self
        · exact List.mem_cons_of_mem d (ih List.mem_cons_self hc)
      · exact List.mem_cons_of_mem d (ih (List.mem_cons_of_mem first hpart) hc)

/-- A text begins with another if that stands in front of a rest. -/
theorem dropFront?_eq_some_iff {front cs rest : List Char} :
    dropFront? front cs = some rest ↔ cs = front ++ rest := by
  induction front generalizing cs with
  | nil => simp [dropFront?, eq_comm]
  | cons f front ih =>
    cases cs with
    | nil => simp [dropFront?]
    | cons c cs =>
      rw [dropFront?]
      split
      · next hfc => simp [ih, hfc]
      · next hfc =>
        simp [Ne.symm hfc]

/-- What stands behind a text has no part in how it begins, if it begins with another sign. -/
theorem isSome_dropFront?_append {front cs behind : List Char}
    (hbehind : ∀ c, behind.head? = some c → c ∉ front) :
    (dropFront? front (cs ++ behind)).isSome = (dropFront? front cs).isSome := by
  induction front generalizing cs with
  | nil => simp [dropFront?]
  | cons f front ih =>
    cases cs with
    | nil =>
      cases behind with
      | nil => rfl
      | cons c behind =>
        have hne : f ≠ c := fun heq => hbehind c rfl (heq ▸ List.mem_cons_self)
        rw [List.nil_append, dropFront?, if_neg hne]
        rfl
    | cons c cs =>
      rw [List.cons_append, dropFront?, dropFront?]
      split
      · exact ih fun c hc hmem => hbehind c hc (List.mem_cons_of_mem f hmem)
      · rfl

/-- A text is not cut at another of which it lacks a character. -/
theorem cutText?_eq_none {sep cs : List Char} {d : Char} (hsep : d ∈ sep) (hcs : d ∉ cs) :
    cutText? sep cs = none := by
  induction cs with
  | nil => rw [cutText?, if_neg (by simpa using List.ne_nil_of_mem hsep)]
  | cons c cs ih =>
    have hfront : dropFront? sep (c :: cs) = none := by
      rw [Option.eq_none_iff_forall_ne_some]
      intro rest hrest
      rw [dropFront?_eq_some_iff] at hrest
      exact hcs (by rw [hrest]; exact List.mem_append_left _ hsep)
    rw [cutText?, hfront, ih (mt (List.mem_cons_of_mem c) hcs)]
    rfl

/-- A text is cut at another exactly if it contains it. -/
theorem cutText?_eq_none_iff {sep cs : List Char} :
    cutText? sep cs = none ↔ contains sep cs = false := by
  induction cs with
  | nil => cases sep <;> simp [cutText?, contains]
  | cons c cs ih =>
    rw [cutText?, contains]
    cases dropFront? sep (c :: cs) with
    | none => simp [ih]
    | some rest => simp

/-- A text is cut at the first place where the other stands: not before, if the front does not
contain it, and not across the end of the front, if its first character does not come again. -/
theorem cutText?_append {d : Char} {sep front : List Char} (hsep : d ∉ sep)
    (hfront : contains (d :: sep) front = false) (rest : List Char) :
    cutText? (d :: sep) (front ++ (d :: sep ++ rest)) = some (front, rest) := by
  induction front with
  | nil =>
    have hdrop : dropFront? (d :: sep) (d :: (sep ++ rest)) = some rest :=
      dropFront?_eq_some_iff.mpr rfl
    rw [List.nil_append, List.cons_append, cutText?, hdrop]
  | cons c front ih =>
    obtain ⟨hhead, hfront⟩ := Bool.or_eq_false_iff.mp hfront
    have hdrop : dropFront? (d :: sep) (c :: (front ++ (d :: sep ++ rest))) = none := by
      rw [Option.eq_none_iff_forall_ne_some]
      intro left hleft
      rw [dropFront?_eq_some_iff, ← List.cons_append, List.append_eq_append_iff] at hleft
      rcases hleft with ⟨back, hback, hrest⟩ | ⟨back, hback, -⟩
      · cases back with
        | nil =>
          rw [List.append_nil] at hback
          rw [← hback, dropFront?_eq_some_iff.mpr (List.append_nil _).symm] at hhead
          cases hhead
        | cons b back =>
          obtain ⟨rfl, -⟩ := List.cons.inj hrest
          obtain ⟨-, rfl⟩ := List.cons.inj hback
          exact hsep (by simp)
      · rw [hback, dropFront?_eq_some_iff.mpr rfl] at hhead
        cases hhead
    rw [List.cons_append, cutText?, hdrop, ih hfront]
    rfl

/-- What is joined holds the parts and what stands between them, and nothing else. -/
theorem mem_intercalate {sep : List Char} {parts : List (List Char)} {c : Char}
    (hc : c ∈ List.intercalate sep parts) : c ∈ sep ∨ ∃ part ∈ parts, c ∈ part := by
  rw [List.intercalate, List.mem_flatten] at hc
  obtain ⟨part, hpart, hc⟩ := hc
  induction parts with
  | nil => simp at hpart
  | cons first parts ih =>
    cases parts with
    | nil =>
      rw [List.intersperse_singleton, List.mem_singleton] at hpart
      exact Or.inr ⟨first, List.mem_cons_self, hpart ▸ hc⟩
    | cons second parts =>
      rw [List.intersperse_cons_cons, List.mem_cons, List.mem_cons] at hpart
      rcases hpart with rfl | rfl | hpart
      · exact Or.inr ⟨_, List.mem_cons_self, hc⟩
      · exact Or.inl hc
      · exact (ih hpart).imp_right fun ⟨part, hmem, h⟩ => ⟨part, List.mem_cons_of_mem _ hmem, h⟩

/-- What is joined holds all of each part. -/
theorem mem_intercalate_of_mem {sep : List Char} {parts : List (List Char)} {part : List Char}
    (hpart : part ∈ parts) {c : Char} (hc : c ∈ part) : c ∈ List.intercalate sep parts := by
  induction parts with
  | nil => cases hpart
  | cons first parts ih =>
    cases parts with
    | nil =>
      obtain rfl := List.mem_singleton.mp hpart
      rwa [List.intercalate_singleton]
    | cons second parts =>
      rw [List.intercalate_cons_cons, List.mem_append]
      rcases List.mem_cons.mp hpart with rfl | hpart
      · exact .inl (List.mem_append_left _ hc)
      · exact .inr (ih hpart)

end Text
end RegistryAuth
