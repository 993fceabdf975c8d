import Mathlib
import RegistryAuth.Credential.Redaction

/-!
# What is seen of a secret

Of a secret it is shown whether it is empty, whether it is longer than four characters, and
then its first two and its last two.  `SameForm` says that two secrets do not differ in that, and
`redact_eq_iff` that this is all there is to see.
-/

namespace RegistryAuth

/-- Both are empty, both are short, or both are long and begin and end alike. -/
def SameForm (a b : String) : Prop :=
  (a.toList = [] ∧ b.toList = []) ∨
  ((1 ≤ a.toList.length ∧ a.toList.length ≤ 4) ∧ 1 ≤ b.toList.length ∧ b.toList.length ≤ 4) ∨
  ((4 < a.toList.length ∧ 4 < b.toList.length) ∧ a.toList.take 2 = b.toList.take 2 ∧
    a.toList.drop (a.toList.length - 2) = b.toList.drop (b.toList.length - 2))

instance (a b : String) : Decidable (SameForm a b) := inferInstanceAs (Decidable (_ ∨ _ ∨ _))

namespace SameForm

variable {a b : String}

theorem refl (a : String) : SameForm a a := by
  rcases Nat.lt_or_ge 4 a.toList.length with hlong | hshort
  · exact .inr (.inr ⟨⟨hlong, hlong⟩, rfl, rfl⟩)
  · cases hcs : a.toList with
    | nil => exact .inl ⟨hcs, hcs⟩
    | cons c cs =>
      have hpos : 1 ≤ a.toList.length := by
        rw [hcs, List.length_cons]
        exact Nat.le_add_left _ _
      exact .inr (.inl ⟨⟨hpos, hshort⟩, hpos, hshort⟩)

/-- Texts of more than four characters that begin and end alike. -/
theorem of_ends {front back us vs : List Char} (ha : a.toList = front ++ us ++ back)
    (hb : b.toList = front ++ vs ++ back) (hfront : front.length = 2) (hback : back.length = 2)
    (hus : us ≠ []) (hvs : vs ≠ []) : SameForm a b := by
  have hlong {cs : List Char} (hcs : cs ≠ []) : 4 < (front ++ cs ++ back).length := by
    have := List.length_pos_of_ne_nil hcs
    simp only [List.length_append]
    omega
  have htake (cs : List Char) : (front ++ cs ++ back).take 2 = front := by
    rw [List.append_assoc, ← hfront, List.take_left]
  have hdrop (cs : List Char) :
      (front ++ cs ++ back).drop ((front ++ cs ++ back).length - 2) = back := by
    have hlength : (front ++ cs ++ back).length - 2 = (front ++ cs).length := by
      rw [List.length_append, hback, Nat.add_sub_cancel]
    rw [hlength, List.drop_left]
  rw [SameForm, ha, hb, htake, htake, hdrop, hdrop]
  exact .inr (.inr ⟨⟨hlong hus, hlong hvs⟩, rfl, rfl⟩)

theorem isEmpty_eq (h : SameForm a b) : a.isEmpty = b.isEmpty := by
  have hempty (s : String) : s.isEmpty = decide (s.toList.length = 0) := by
    rw [Bool.eq_iff_iff, String.isEmpty_iff, decide_eq_true_iff, List.length_eq_zero_iff,
      String.toList_eq_nil_iff]
  rw [hempty, hempty]
  rcases h with ⟨ha, hb⟩ | ⟨ha, hb⟩ | ⟨⟨ha, hb⟩, -⟩
  · rw [ha, hb]
  · exact decide_eq_decide.mpr (by omega)
  · exact decide_eq_decide.mpr (by omega)

end SameForm

/-! ## Redaction -/

variable {a b secret : String}

theorem redact_of_empty (h : secret.toList = []) : redact secret = "" := by
  simp only [redact, h]
  rfl

theorem redact_of_short (h : 1 ≤ secret.toList.length) (h' : secret.toList.length ≤ 4) :
    redact secret = "****" := by
  have hne : secret.toList.isEmpty = false := by
    rw [List.isEmpty_eq_false_iff]
    exact List.ne_nil_of_length_pos h
  simp only [redact, hne, Bool.false_eq_true, if_false, if_pos h']

theorem redact_of_long (h : 4 < secret.toList.length) :
    redact secret = String.ofList (secret.toList.take 2 ++ ['…'] ++
      secret.toList.drop (secret.toList.length - 2)) := by
  have hne : secret.toList.isEmpty = false := by
    rw [List.isEmpty_eq_false_iff]
    exact List.ne_nil_of_length_pos (by omega)
  simp only [redact, hne, Bool.false_eq_true, if_false, if_neg (Nat.not_le.mpr h)]

/-- The three forms that a secret is shown in have different lengths. -/
theorem length_redact (secret : String) :
    (redact secret).toList.length =
      if secret.toList.length = 0 then 0 else if secret.toList.length ≤ 4 then 4 else 5 := by
  split
  · rename_i h
    rw [redact_of_empty (List.length_eq_zero_iff.mp h)]
    rfl
  · split
    · rw [redact_of_short (by omega) (by omega)]
      simp
    · rw [redact_of_long (by omega), String.toList_ofList]
      simp only [List.length_append, List.length_take, List.length_drop, List.length_singleton]
      omega

/-- **All that is seen of a secret is its form.** -/
theorem redact_eq_iff : redact a = redact b ↔ SameForm a b := by
  constructor
  · intro h
    have hlength := (length_redact a).symm.trans ((congrArg (·.toList.length) h).trans
      (length_redact b))
    by_cases hempty : a.toList.length = 0
    · refine .inl ⟨List.length_eq_zero_iff.mp hempty, List.length_eq_zero_iff.mp ?_⟩
      by_contra hb
      rw [if_pos hempty, if_neg hb] at hlength
      split at hlength <;> cases hlength
    · rw [if_neg hempty] at hlength
      by_cases hshort : a.toList.length ≤ 4
      · rw [if_pos hshort] at hlength
        refine .inr (.inl ⟨by omega, ?_⟩)
        split at hlength
        · cases hlength
        · split at hlength
          · omega
          · cases hlength
      · rw [if_neg hshort] at hlength
        have hb : 4 < b.toList.length := by
          split at hlength
          · cases hlength
          · split at hlength
            · cases hlength
            · omega
        have ha : 4 < a.toList.length := by omega
        rw [redact_of_long ha, redact_of_long hb] at h
        have hlists := String.ofList_injective h
        have hparts := List.append_inj hlists (by simp; omega)
        exact .inr (.inr ⟨⟨ha, hb⟩, (List.append_inj hparts.1 (by simp; omega)).1, hparts.2⟩)
  · rintro (⟨ha, hb⟩ | ⟨ha, hb⟩ | ⟨⟨ha, hb⟩, hfront, hback⟩)
    · rw [redact_of_empty ha, redact_of_empty hb]
    · rw [redact_of_short ha.1 ha.2, redact_of_short hb.1 hb.2]
    · rw [redact_of_long ha, redact_of_long hb, hfront, hback]

end RegistryAuth
