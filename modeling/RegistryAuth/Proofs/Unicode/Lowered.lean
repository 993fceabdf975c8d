import Mathlib
import RegistryAuth.Proofs.Unicode.Ascii
import RegistryAuth.Proofs.Unicode.LowerCase

/-!
# What is in lower case

Lower case is a matter of one step: no letter is moved to where another is moved away
(`lowerRuns_landing`), so a text in lower case stays as it is (`lower_lower`).

* `IsReached`, `IsBarred`: the code points to which letters are moved, and some to which nothing is
  ever moved: the signs of ASCII and the dots of other scripts (`mem_of_mem_lower`).
* `IsLower`: the characters that stay as they are, wherever they stand.
* `foreignCount_le_lowerFrom`: no character beyond ASCII is lost, the sign of the kelvin apart.
* `lower_append`: what stands behind a text has no part in its lower case, if it holds no letter.
-/

namespace RegistryAuth
namespace Unicode

/-! ## Where letters are moved -/

/-- Where the letters of a run are moved. -/
def Run.landing (run : Run) : Nat × Nat :=
  ((run.first + run.value).toNat, (run.last + run.value).toNat)

/-- The code points at which nothing arrives that was not there before: those up to the capital
letters of ASCII, the capital i with a dot, the capital sigma, the dots of other scripts, and what
is no character. -/
def barred : List Run :=
  [⟨0, 0x60, 0⟩, ⟨0x130, 0x130, 0⟩, ⟨0x3A3, 0x3A3, 0⟩, ⟨0x3002, 0x3002, 0⟩, ⟨0xD800, 0xDFFF, 0⟩,
    ⟨0xFF0E, 0xFF0E, 0⟩, ⟨0xFF61, 0xFF61, 0⟩]

/-- What arises in lower case apart from the table: the two forms of sigma, and the dot that is
left of the capital i. -/
def arising : List Run := [⟨0x307, 0x307, 0⟩, ⟨0x3C2, 0x3C3, 0⟩]

set_option maxRecDepth 20000 in
/-- No letter is moved to where another is moved away. -/
theorem lowerRuns_landing : lowerRuns.HasWords fun runs =>
    Runs.bits Run.landing (arising ++ runs) &&&
      Runs.bits (fun run => (run.first, run.last)) (barred ++ runs) = 0 := by
  refine ⟨_, _, rfl, rfl, ?_⟩
  decide +kernel

set_option maxRecDepth 20000 in
/-- No letter is moved behind the last character. -/
theorem allWords_lowerRuns_le :
    lowerRuns.AllWords fun run => decide (run.last + run.value ≤ 0x10FFFF) := by
  refine ⟨_, _, rfl, rfl, ?_⟩
  decide +kernel

/-- A letter comes to lie on the code point. -/
def IsReached (n : Nat) : Prop :=
  ∃ run ∈ arising ++ lowerRuns.toList, run.landing.1 ≤ n ∧ n ≤ run.landing.2

/-- Nothing new arrives at the code point. -/
def IsBarred (n : Nat) : Prop := ∃ run ∈ barred, run.first ≤ n ∧ n ≤ run.last

instance (n : Nat) : Decidable (IsBarred n) :=
  inferInstanceAs (Decidable (∃ run ∈ barred, run.first ≤ n ∧ n ≤ run.last))

/-- The character stays as it is in lower case, wherever it stands. -/
def IsLower (c : Char) : Prop := ∀ before after, lowerChar before c after = [c]

theorem IsReached.spec {n : Nat} (h : IsReached n) : lowerRuns.find? n = none ∧ ¬IsBarred n := by
  have hbits : ∀ run ∈ barred ++ lowerRuns.toList, ¬(run.first ≤ n ∧ n ≤ run.last) := by
    intro run hrun hholds
    have hnone := congrArg (·.testBit n) lowerRuns_landing.toList
    have hland := Runs.testBit_bits.mpr h
    have hleave : (Runs.bits (fun run => (run.first, run.last))
        (barred ++ lowerRuns.toList)).testBit n = true :=
      Runs.testBit_bits.mpr ⟨run, hrun, hholds⟩
    simp [Nat.testBit_and, hland, hleave] at hnone
  refine ⟨Option.eq_none_iff_forall_ne_some.mpr fun run hfind => ?_, ?_⟩
  · obtain ⟨hmem, hholds⟩ := Runs.mem_of_find?_eq_some hfind
    exact hbits run (List.mem_append_right _ (Array.mem_toList_iff.mpr hmem)) hholds
  · rintro ⟨run, hrun, hholds⟩
    exact hbits run (List.mem_append_left _ hrun) hholds

theorem isLower_of_ascii {c : Char} (hc : c.toNat < 128) (hlower : c.toLower = c) : IsLower c := by
  intro before after
  rw [lowerChar, if_pos hc, hlower]

theorem isLower_of_find?_eq_none {c : Char} (hforeign : 128 ≤ c.toNat) (hsigma : c ≠ 'Σ')
    (hdotted : c ≠ 'İ') (hfind : lowerRuns.find? c.toNat = none) : IsLower c := by
  intro before after
  rw [lowerChar, if_neg (by omega), if_neg hsigma, if_neg hdotted, shift, Runs.valueAt, hfind]
  simp

/-- What a letter is moved to stays as it is. -/
theorem IsReached.isLower {c : Char} (h : IsReached c.toNat) : IsLower c := by
  obtain ⟨hfind, hbarred⟩ := h.spec
  by_cases hascii : c.toNat < 128
  · have hsmall : 0x60 < c.toNat := by
      by_contra hle
      exact hbarred ⟨_, List.mem_cons_self, Nat.zero_le _, by simpa using hle⟩
    exact isLower_of_ascii hascii <|
      Char.forall_ascii (P := fun c => 0x60 < c.toNat → c.toLower = c) (by decide) hascii hsmall
  · refine isLower_of_find?_eq_none (Nat.not_lt.mp hascii) ?_ ?_ hfind
    · rintro rfl
      exact hbarred (by decide)
    · rintro rfl
      exact hbarred (by decide)

theorem isReached_of_arising {n : Nat} (h : n = 0x307 ∨ n = 0x3C2 ∨ n = 0x3C3) : IsReached n := by
  rcases h with rfl | rfl | rfl
  · exact ⟨⟨0x307, 0x307, 0⟩, List.mem_append_left _ (by decide), by decide⟩
  · exact ⟨⟨0x3C2, 0x3C3, 0⟩, List.mem_append_left _ (by decide), by decide⟩
  · exact ⟨⟨0x3C2, 0x3C3, 0⟩, List.mem_append_left _ (by decide), by decide⟩

/-- A letter that is moved comes to lie on a code point that is reached. -/
theorem isReached_shift {c : Char} {run : Run}
    (hfind : lowerRuns.find? c.toNat = some run) : IsReached (shift lowerRuns c).toNat := by
  obtain ⟨hle, hfirst, hlast⟩ := allWords_lowerRuns_le.of_find? hfind
  obtain ⟨hmem, -⟩ := Runs.mem_of_find?_eq_some hfind
  rw [decide_eq_true_iff] at hle
  have hreached : IsReached ((c.toNat : Int) + run.value).toNat := by
    refine ⟨run, List.mem_append_right _ (Array.mem_toList_iff.mpr hmem), ?_⟩
    dsimp only [Run.landing]
    omega
  have hvalid : Nat.isValidChar ((c.toNat : Int) + run.value).toNat := by
    have hsurrogate : ¬(0xD800 ≤ ((c.toNat : Int) + run.value).toNat ∧
        ((c.toNat : Int) + run.value).toNat ≤ 0xDFFF) := fun h =>
      hreached.spec.2 ⟨⟨0xD800, 0xDFFF, 0⟩, by decide, h⟩
    rw [Nat.isValidChar]
    omega
  rw [shift, Runs.valueAt, hfind]
  dsimp only
  rwa [Char.toNat_ofNat, if_pos hvalid]

/-- What becomes of a character in lower case is in lower case, and it is the character itself
unless something may arrive there. -/
theorem of_mem_lowerChar {before after : List Char} {c d : Char}
    (hd : d ∈ lowerChar before c after) :
    IsLower d ∧ (d = c ∨ ¬IsBarred d.toNat) := by
  unfold lowerChar at hd
  split at hd
  · next hascii =>
    rw [List.mem_singleton] at hd
    subst hd
    refine ⟨isLower_of_ascii (Char.toNat_toLower_lt hascii) ?_, ?_⟩
    · exact Char.forall_ascii (P := fun c => c.toLower.toLower = c.toLower) (by decide) hascii
    · exact Char.forall_ascii (P := fun c => c.toLower = c ∨ ¬IsBarred c.toLower.toNat) (by decide)
        hascii
  · next hforeign =>
    have hreached (h : IsReached d.toNat) : IsLower d ∧ (d = c ∨ ¬IsBarred d.toNat) :=
      ⟨h.isLower, .inr h.spec.2⟩
    split at hd
    · rw [List.mem_singleton, lowerSigma] at hd
      refine hreached (isReached_of_arising ?_)
      subst hd
      dsimp only
      split_ifs <;> decide
    · next hsigma =>
      split at hd
      · rcases List.mem_pair.mp hd with rfl | rfl
        · exact ⟨isLower_of_ascii (by decide) (by decide), .inr (by decide)⟩
        · exact hreached (isReached_of_arising (by decide))
      · next hdotted =>
        rw [List.mem_singleton] at hd
        subst hd
        cases hfind : lowerRuns.find? c.toNat with
        | none =>
          have hstays : shift lowerRuns c = c := by
            rw [shift, Runs.valueAt, hfind]
            simp
          rw [hstays]
          exact ⟨isLower_of_find?_eq_none (Nat.not_lt.mp hforeign) hsigma hdotted hfind, .inl rfl⟩
        | some run => exact hreached (isReached_shift hfind)

theorem lowerFrom_eq_self {cs : List Char} (hcs : ∀ c ∈ cs, IsLower c) (before : List Char) :
    lowerFrom before cs = cs := by
  induction cs generalizing before with
  | nil => rfl
  | cons c cs ih =>
    obtain ⟨hc, hcs⟩ := List.forall_mem_cons.mp hcs
    rw [lowerFrom, hc, ih hcs, List.singleton_append]

/-- A text in lower case stays as it is. -/
theorem lower_eq_self {cs : List Char} (hcs : ∀ c ∈ cs, IsLower c) : lower cs = cs :=
  lowerFrom_eq_self hcs []

theorem of_mem_lowerFrom {before cs : List Char} {d : Char} (hd : d ∈ lowerFrom before cs) :
    IsLower d ∧ (d ∈ cs ∨ ¬IsBarred d.toNat) := by
  induction cs generalizing before with
  | nil => cases hd
  | cons c cs ih =>
    rw [lowerFrom, List.mem_append] at hd
    rcases hd with hd | hd
    · obtain ⟨hlower, hd⟩ := of_mem_lowerChar hd
      exact ⟨hlower, hd.imp_left fun heq : d = c => heq ▸ List.mem_cons_self⟩
    · obtain ⟨hlower, hd⟩ := ih hd
      exact ⟨hlower, hd.imp_left (List.mem_cons_of_mem c)⟩

theorem isLower_of_mem_lower {cs : List Char} {d : Char} (hd : d ∈ lower cs) : IsLower d :=
  (of_mem_lowerFrom hd).1

/-- What nothing arrives at is in the lower case of a text only if it is in the text. -/
theorem mem_of_mem_lower {cs : List Char} {d : Char} (hd : d ∈ lower cs)
    (hbarred : IsBarred d.toNat) : d ∈ cs :=
  (of_mem_lowerFrom hd).2.resolve_right (not_not_intro hbarred)

/-- **Lower case is reached in one step.** -/
theorem lower_lower (cs : List Char) : lower (lower cs) = lower cs :=
  lower_eq_self fun _ hd => isLower_of_mem_lower hd

/-! ## Characters beyond ASCII -/

/-- How many characters of a text are beyond ASCII. -/
def foreignCount (cs : List Char) : Nat := cs.countP fun c => 128 ≤ c.toNat

theorem foreignCount_append (cs ds : List Char) :
    foreignCount (cs ++ ds) = foreignCount cs + foreignCount ds :=
  List.countP_append

theorem foreignCount_eq_zero {cs : List Char} : foreignCount cs = 0 ↔ ∀ c ∈ cs, c.toNat < 128 := by
  simp [foreignCount, List.countP_eq_zero]

theorem foreignCount_pos {cs : List Char} : 0 < foreignCount cs ↔ ∃ c ∈ cs, 128 ≤ c.toNat := by
  simp [foreignCount, List.countP_pos_iff]

/-- Nothing beyond ASCII arises from a text in ASCII. -/
theorem exists_foreign_of_mem_lower {cs : List Char} (h : ∃ c ∈ lower cs, 128 ≤ c.toNat) :
    ∃ c ∈ cs, 128 ≤ c.toNat := by
  by_contra hnone
  have hascii : ∀ c ∈ cs, c.toNat < 128 := fun c hc => by
    by_contra hcode
    exact hnone ⟨c, hc, Nat.not_lt.mp hcode⟩
  obtain ⟨c, hc, hcode⟩ := h
  rw [lower_eq_map_toLower hascii] at hc
  obtain ⟨d, hd, rfl⟩ := List.mem_map.mp hc
  exact absurd (Char.toNat_toLower_lt (hascii d hd)) (Nat.not_lt.mpr hcode)

/-- No character beyond ASCII is lost in lower case, the sign of the kelvin apart. -/
theorem foreignCount_le_lowerFrom {cs : List Char} (hcs : kelvin ∉ cs) (before : List Char) :
    foreignCount cs ≤ foreignCount (lowerFrom before cs) := by
  induction cs generalizing before with
  | nil => exact Nat.zero_le _
  | cons c cs ih =>
    obtain ⟨hc, hcs⟩ := not_or.mp (mt List.mem_cons.mpr hcs)
    have hrest := ih hcs (c :: before)
    rw [lowerFrom, foreignCount_append]
    by_cases hforeign : 128 ≤ c.toNat
    · have hpos := foreignCount_pos.mpr
        (exists_foreign_of_lowerChar hforeign (Ne.symm hc) before cs)
      rw [foreignCount, List.countP_cons_of_pos (by simpa using hforeign), ← foreignCount]
      omega
    · rw [foreignCount, List.countP_cons_of_neg (by simpa using hforeign), ← foreignCount]
      omega

/-! ## What stands behind a text -/

set_option maxRecDepth 20000 in
/-- The letters with a case begin behind the digits and the colon. -/
theorem allWords_casedRuns : casedRuns.AllWords (Run.avoids [(0, 0x3A)]) := by
  refine ⟨_, _, rfl, rfl, ?_⟩
  decide +kernel

theorem casedRuns_holds_eq_false {c : Char} (hc : c.toNat ≤ 0x3A) : casedRuns.holds c = false :=
  allWords_casedRuns.holds_eq_false ⟨(0, 0x3A), by decide, Nat.zero_le _, hc⟩

/-- Whether a word ends where a text begins. -/
def wordEnds (cs : List Char) : Bool :=
  match cs.dropWhile caselessRuns.holds with
  | [] => true
  | c :: _ => !casedRuns.holds c

theorem lowerSigma_eq (before after : List Char) :
    lowerSigma before after =
      if wordEnds before then 'σ' else if wordEnds after then 'ς' else 'σ' :=
  rfl

theorem wordEnds_append {tail : List Char} (htail : ∀ c ∈ tail, c.toNat ≤ 0x3A) (cs : List Char) :
    wordEnds (cs ++ tail) = wordEnds cs := by
  unfold wordEnds
  induction cs with
  | nil =>
    rw [List.nil_append, List.dropWhile_nil]
    split
    · rfl
    · next c rest hdrop =>
      have hmem : c ∈ tail := (List.dropWhile_sublist _).subset (hdrop ▸ List.mem_cons_self)
      rw [casedRuns_holds_eq_false (htail c hmem)]
      rfl
  | cons c cs ih =>
    rw [List.cons_append, List.dropWhile_cons, List.dropWhile_cons]
    by_cases hc : caselessRuns.holds c = true
    · rw [if_pos hc, if_pos hc]
      exact ih
    · rw [if_neg hc, if_neg hc]

theorem lowerChar_append {tail : List Char} (htail : ∀ c ∈ tail, c.toNat ≤ 0x3A)
    (before : List Char) (c : Char) (cs : List Char) :
    lowerChar before c (cs ++ tail) = lowerChar before c cs := by
  rw [lowerChar, lowerChar, lowerSigma_eq, lowerSigma_eq, wordEnds_append htail]

theorem lowerFrom_append {tail : List Char} (htail : ∀ c ∈ tail, c.toNat ≤ 0x3A)
    (before cs : List Char) : lowerFrom before (cs ++ tail) = lowerFrom before cs ++ tail := by
  induction cs generalizing before with
  | nil =>
    refine lowerFrom_eq_self (fun c hc => ?_) before
    have hle := htail c hc
    exact isLower_of_ascii (by omega) <| Char.forall_ascii
      (P := fun c => c.toNat ≤ 0x3A → c.toLower = c) (by decide) (by omega) hle
  | cons c cs ih =>
    rw [List.cons_append, lowerFrom, lowerFrom, lowerChar_append htail, ih, List.append_assoc]

/-- What stands behind a text has no part in its lower case, if it holds no letter. -/
theorem lower_append {tail : List Char} (htail : ∀ c ∈ tail, c.toNat ≤ 0x3A) (cs : List Char) :
    lower (cs ++ tail) = lower cs ++ tail :=
  lowerFrom_append htail [] cs

end Unicode
end RegistryAuth
