import RegistryAuth.Console.Cells
import RegistryAuth.Proofs.Unicode.CellWidth

/-!
# The cells that a text fills

A text whose characters fill one cell each is as wide as it is long (`Cells.IsNarrow`,
`Cells.width_of_isNarrow`), and widths add up where nothing joins the second text to the first
(`Cells.width_append`).  So a text that has room is not cut, and blanks fill what is left
(`Cells.fit_of_le`).
-/

namespace RegistryAuth
namespace Cells

variable {cs ds : List Char} {n : Nat}

/-- Every character fills one cell, and none is joined to its neighbours. -/
def IsNarrow (cs : List Char) : Prop :=
  ∀ c ∈ cs, Unicode.cellWidth c = 1 ∧ c ≠ joiner ∧ c ≠ emojiSelector

theorem isNarrow_nil : IsNarrow [] := by simp [IsNarrow]

theorem isNarrow_append : IsNarrow (cs ++ ds) ↔ IsNarrow cs ∧ IsNarrow ds := by
  simp only [IsNarrow, List.mem_append]
  exact ⟨fun h => ⟨fun c hc => h c (.inl hc), fun c hc => h c (.inr hc)⟩,
    fun h c hc => hc.elim (h.1 c) (h.2 c)⟩

theorem IsNarrow.of_sublist (h : IsNarrow cs) (hsub : ds.Sublist cs) : IsNarrow ds :=
  fun c hc => h c (hsub.mem hc)

/-- What is written in ASCII without controls is narrow. -/
theorem isNarrow_of_ascii (h : ∀ c ∈ cs, 32 ≤ c.toNat ∧ c.toNat < 127) : IsNarrow cs := by
  intro c hc
  have hrange := h c hc
  refine ⟨Unicode.cellWidth_of_ascii hrange, ?_, ?_⟩
  · rintro rfl
    exact absurd hrange (by decide)
  · rintro rfl
    exact absurd hrange (by decide)

theorem isNarrow_of_isFrame (h : ∀ c ∈ cs, Unicode.isFrame c = true) : IsNarrow cs := by
  intro c hc
  refine ⟨Unicode.cellWidth_of_isFrame (h c hc), ?_, ?_⟩
  · rintro rfl
    exact absurd (h _ hc) (by decide)
  · rintro rfl
    exact absurd (h _ hc) (by decide)

theorem isNarrow_replicate_blank (n : Nat) : IsNarrow (List.replicate n ' ') :=
  isNarrow_of_ascii fun c hc => by rw [List.eq_of_mem_replicate hc]; decide

theorem IsNarrow.cons {c : Char} (hc : IsNarrow [c]) (h : IsNarrow cs) : IsNarrow (c :: cs) :=
  isNarrow_append.mpr ⟨hc, h⟩

theorem isNarrow_blank : IsNarrow [' '] := isNarrow_replicate_blank 1

/-! ## Widths -/

theorem widthAfter_cons {c : Char} (hjoiner : c ≠ joiner) (cs : List Char) (last : Option Char) :
    widthAfter last (c :: cs) =
      if c = emojiSelector then
        (if last.any Unicode.isWidened then 1 else 0) + widthAfter none cs
      else if Unicode.cellWidth c = 0 then widthAfter last cs
      else Unicode.cellWidth c + widthAfter (some c) cs := by
  rw [widthAfter.eq_def]
  simp only [if_neg hjoiner]

theorem widthAfter_of_isNarrow (h : IsNarrow cs) (last : Option Char) :
    widthAfter last cs = cs.length := by
  induction cs generalizing last with
  | nil => rw [widthAfter]; rfl
  | cons c cs ih =>
    obtain ⟨⟨hwidth, hjoiner, hselector⟩, hcs⟩ := List.forall_mem_cons.mp h
    rw [widthAfter_cons hjoiner, if_neg hselector, hwidth, if_neg one_ne_zero, ih hcs,
      List.length_cons, Nat.add_comm]

theorem width_of_isNarrow (h : IsNarrow cs) : width cs = cs.length :=
  widthAfter_of_isNarrow h none

/-- What comes before the text makes nothing of it wider. -/
def IsFresh (cs : List Char) : Prop := ∀ last, widthAfter last cs = width cs

theorem IsNarrow.isFresh (h : IsNarrow cs) : IsFresh cs := fun last => by
  rw [widthAfter_of_isNarrow h, width_of_isNarrow h]

theorem isFresh_cons {c : Char} (hc : IsNarrow [c]) (cs : List Char) : IsFresh (c :: cs) := by
  intro last
  obtain ⟨hwidth, hjoiner, hselector⟩ := hc c (List.mem_singleton_self c)
  rw [width, widthAfter_cons hjoiner, widthAfter_cons hjoiner, if_neg hselector, if_neg hselector,
    hwidth, if_neg one_ne_zero, if_neg one_ne_zero]

theorem width_cons_of_isFresh {c : Char} (hc : IsNarrow [c]) (h : IsFresh cs) :
    width (c :: cs) = width cs + 1 := by
  obtain ⟨hwidth, hjoiner, hselector⟩ := hc c (List.mem_singleton_self c)
  rw [width, widthAfter_cons hjoiner, if_neg hselector, hwidth, if_neg one_ne_zero, h (some c),
    Nat.add_comm]

/-- A joiner would take what follows it along. -/
theorem widthAfter_append (hjoiner : joiner ∉ cs) (hds : IsFresh ds) (last : Option Char) :
    widthAfter last (cs ++ ds) = widthAfter last cs + width ds := by
  induction cs generalizing last with
  | nil => rw [List.nil_append, hds last, widthAfter, Nat.zero_add]
  | cons c cs ih =>
    obtain ⟨hc, hcs⟩ := not_or.mp (List.mem_cons.not.mp hjoiner)
    rw [List.cons_append, widthAfter_cons (Ne.symm hc), widthAfter_cons (Ne.symm hc), ih hcs,
      ih hcs, ih hcs]
    split
    · omega
    · split <;> omega

theorem width_append (hjoiner : joiner ∉ cs) (hds : IsFresh ds) :
    width (cs ++ ds) = width cs + width ds :=
  widthAfter_append hjoiner hds none

/-- Of what comes before a text it only counts whether a selector would make it wider. -/
theorem widthAfter_congr {last last' : Option Char}
    (h : last.any Unicode.isWidened = last'.any Unicode.isWidened) (cs : List Char) :
    widthAfter last cs = widthAfter last' cs := by
  fun_induction widthAfter last cs with
  | case1 => rw [widthAfter]
  | case2 => rw [widthAfter, if_pos rfl]
  | case3 last d cs ih => rw [ih h, widthAfter, if_pos rfl]
  | case4 last cs hjoiner ih => rw [widthAfter_cons hjoiner, if_pos rfl, h]
  | case5 last c cs hjoiner hselector hwidth ih =>
    rw [widthAfter_cons hjoiner, if_neg hselector, if_pos hwidth, ih h]
  | case6 last c cs hjoiner hselector hwidth ih =>
    rw [widthAfter_cons hjoiner, if_neg hselector, if_neg hwidth]

theorem width_blank_cons (cs : List Char) : width (' ' :: cs) = width cs + 1 := by
  obtain ⟨hwidth, hjoiner, hselector⟩ := isNarrow_blank ' ' (List.mem_singleton_self _)
  have hlast : (some ' ').any Unicode.isWidened = (none : Option Char).any Unicode.isWidened := by
    rw [Option.any_some, Unicode.isWidened_blank, Option.any_none]
  rw [width, widthAfter_cons hjoiner, if_neg hselector, hwidth, if_neg one_ne_zero,
    widthAfter_congr hlast, width, Nat.add_comm]

/-- No character counts for more than two cells. -/
theorem widthAfter_le (cs : List Char) (last : Option Char) :
    widthAfter last cs ≤ 2 * cs.length := by
  fun_induction widthAfter last cs with
  | case1 => exact Nat.zero_le _
  | case2 => exact Nat.zero_le _
  | case3 last d cs ih => simp only [List.length_cons]; omega
  | case4 last cs hjoiner ih =>
    simp only [List.length_cons]
    split <;> omega
  | case5 last c cs hjoiner hselector hwidth ih => simp only [List.length_cons]; omega
  | case6 last c cs hjoiner hselector hwidth ih =>
    have := Unicode.cellWidth_le_two c
    simp only [List.length_cons]
    omega

/-! ## Fitting -/

theorem crop_of_le (h : width cs ≤ n) : crop n cs = cs := by rw [crop, if_pos h]

theorem fit_of_le (h : width cs ≤ n) :
    fit n cs = cs ++ List.replicate (n - width cs) ' ' := by
  rw [fit, crop_of_le h, pad]

theorem joiner_not_mem_fit (hjoiner : joiner ∉ cs) (h : width cs ≤ n) : joiner ∉ fit n cs := by
  rw [fit_of_le h, List.mem_append, not_or]
  refine ⟨hjoiner, fun hmem => ?_⟩
  exact absurd (List.eq_of_mem_replicate hmem) (by decide)

theorem IsNarrow.joiner_not_mem (h : IsNarrow cs) : joiner ∉ cs := fun hmem => (h _ hmem).2.1 rfl

/-- A text that has room fills exactly the cells that it is fitted into. -/
theorem width_fit (hjoiner : joiner ∉ cs) (h : width cs ≤ n) : width (fit n cs) = n := by
  have hblank := isNarrow_replicate_blank (n - width cs)
  rw [fit_of_le h, width_append hjoiner hblank.isFresh, width_of_isNarrow hblank,
    List.length_replicate]
  omega

theorem fit_of_width_eq (h : width cs = n) : fit n cs = cs := by
  rw [fit_of_le h.le, h, Nat.sub_self, List.replicate_zero, List.append_nil]

end Cells
end RegistryAuth
