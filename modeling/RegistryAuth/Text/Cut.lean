/-!
# Cutting text at separators

Addresses, headers, paths and query strings are all read by cutting a text at the
first, the last or every occurrence of a separator.  The cuts work on lists of
characters, so that what they do can be stated by appending the parts again:
`cut?` and `cutLast?` lose nothing but the separator (`cut?_eq_some`,
`cutLast?_eq_some`), and `splitOn` gives parts that hold no separator
(`not_mem_of_mem_splitOn`).
-/

namespace RegistryAuth
namespace Text

/-- The parts before and after the first character that `p` accepts. -/
def cut? (p : Char → Bool) : List Char → Option (List Char × List Char)
  | [] => none
  | c :: cs =>
    if p c then some ([], cs)
    else (cut? p cs).map fun (a, b) => (c :: a, b)

/-- The parts before and after the last character that `p` accepts. -/
def cutLast? (p : Char → Bool) : List Char → Option (List Char × List Char)
  | [] => none
  | c :: cs =>
    match cutLast? p cs with
    | some (a, b) => some (c :: a, b)
    | none => if p c then some ([], cs) else none

/-- All parts between the occurrences of `sep`; one more than there are separators. -/
def splitOn (sep : Char) : List Char → List (List Char)
  | [] => [[]]
  | c :: cs =>
    if c = sep then [] :: splitOn sep cs
    else
      match splitOn sep cs with
      | [] => [[c]]
      | part :: parts => (c :: part) :: parts

/-- All parts between the characters that `p` accepts. -/
def splitWhere (p : Char → Bool) : List Char → List (List Char)
  | [] => [[]]
  | c :: cs =>
    if p c then [] :: splitWhere p cs
    else
      match splitWhere p cs with
      | [] => [[c]]
      | part :: parts => (c :: part) :: parts

/-- Removes every character that `p` accepts from both ends. -/
def trimBoth (p : Char → Bool) (cs : List Char) : List Char :=
  ((cs.dropWhile p).reverse.dropWhile p).reverse

/-- The rest of `cs` after `front`, if `cs` starts with it. -/
def dropFront? : List Char → List Char → Option (List Char)
  | [], cs => some cs
  | f :: fs, c :: cs => if f = c then dropFront? fs cs else none
  | _ :: _, [] => none

/-- Whether `part` occurs in `cs` as a run of neighbours. -/
def contains (part : List Char) : List Char → Bool
  | [] => part.isEmpty
  | c :: cs => (dropFront? part (c :: cs)).isSome || contains part cs

/-- The parts before and after the first occurrence of the text `sep`. -/
def cutText? (sep : List Char) : List Char → Option (List Char × List Char)
  | [] => if sep.isEmpty then some ([], []) else none
  | c :: cs =>
    match dropFront? sep (c :: cs) with
    | some rest => some ([], rest)
    | none => (cutText? sep cs).map fun (a, b) => (c :: a, b)

theorem cut?_eq_some {p : Char → Bool} {cs a b : List Char} (h : cut? p cs = some (a, b)) :
    ∃ c, p c = true ∧ cs = a ++ c :: b ∧ ∀ x ∈ a, p x = false := by
  induction cs generalizing a with
  | nil => simp [cut?] at h
  | cons c cs ih =>
    by_cases hc : p c = true
    · simp [cut?, hc] at h
      obtain ⟨rfl, rfl⟩ := h
      exact ⟨c, hc, by simp, by simp⟩
    · simp only [cut?, hc, Bool.false_eq_true, if_false, Option.map_eq_some_iff] at h
      obtain ⟨⟨a', b'⟩, hcut, hab⟩ := h
      simp only [Prod.mk.injEq] at hab
      obtain ⟨rfl, rfl⟩ := hab
      obtain ⟨d, hd, rfl, hall⟩ := ih hcut
      refine ⟨d, hd, by simp, fun x hx => ?_⟩
      rcases List.mem_cons.1 hx with rfl | hx
      · simpa using hc
      · exact hall x hx

theorem cut?_eq_none_iff {p : Char → Bool} {cs : List Char} :
    cut? p cs = none ↔ ∀ x ∈ cs, p x = false := by
  induction cs with
  | nil => simp [cut?]
  | cons c cs ih =>
    by_cases hc : p c = true <;> simp [cut?, hc, ih]

theorem cutLast?_eq_none_iff {p : Char → Bool} {cs : List Char} :
    cutLast? p cs = none ↔ ∀ x ∈ cs, p x = false := by
  induction cs with
  | nil => simp [cutLast?]
  | cons c cs ih =>
    cases hcut : cutLast? p cs with
    | none =>
      have := ih.1 hcut
      by_cases hc : p c = true <;> simp_all [cutLast?]
    | some ab =>
      have : ¬ ∀ x ∈ cs, p x = false := fun hall => by simp [ih.2 hall] at hcut
      simp only [cutLast?, hcut, reduceCtorEq, List.mem_cons, forall_eq_or_imp, false_iff, not_and]
      exact fun _ => this

theorem cutLast?_eq_some {p : Char → Bool} {cs a b : List Char}
    (h : cutLast? p cs = some (a, b)) :
    ∃ c, p c = true ∧ cs = a ++ c :: b ∧ ∀ x ∈ b, p x = false := by
  induction cs generalizing a with
  | nil => simp [cutLast?] at h
  | cons c cs ih =>
    cases hcut : cutLast? p cs with
    | some ab =>
      obtain ⟨a', b'⟩ := ab
      simp only [cutLast?, hcut, Option.some.injEq, Prod.mk.injEq] at h
      obtain ⟨rfl, rfl⟩ := h
      obtain ⟨d, hd, rfl, hall⟩ := ih hcut
      exact ⟨d, hd, by simp, hall⟩
    | none =>
      by_cases hc : p c = true
      · simp only [cutLast?, hcut, hc, if_true, Option.some.injEq, Prod.mk.injEq] at h
        obtain ⟨rfl, rfl⟩ := h
        exact ⟨c, hc, by simp, cutLast?_eq_none_iff.1 hcut⟩
      · simp [cutLast?, hcut, hc] at h

theorem splitOn_ne_nil (sep : Char) (cs : List Char) : splitOn sep cs ≠ [] := by
  cases cs with
  | nil => simp [splitOn]
  | cons c cs =>
    by_cases hc : c = sep
    · simp [splitOn, hc]
    · simp only [splitOn, hc, if_false]
      split <;> simp

theorem not_mem_of_mem_splitOn {sep : Char} {cs part : List Char}
    (h : part ∈ splitOn sep cs) : sep ∉ part := by
  induction cs generalizing part with
  | nil => simp [splitOn] at h; simp [h]
  | cons c cs ih =>
    by_cases hc : c = sep
    · simp only [splitOn, hc, if_true, List.mem_cons] at h
      rcases h with rfl | h
      · simp
      · exact ih h
    · simp only [splitOn, hc, if_false] at h
      cases hs : splitOn sep cs with
      | nil => exact absurd hs (splitOn_ne_nil sep cs)
      | cons first rest =>
        rw [hs] at h ih
        simp only [List.mem_cons] at h
        rcases h with rfl | h
        · have := ih (List.mem_cons_self)
          simp only [List.mem_cons, not_or]
          exact ⟨fun e => hc e.symm, this⟩
        · exact ih (List.mem_cons_of_mem _ h)

end Text
end RegistryAuth
