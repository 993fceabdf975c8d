import RegistryAuth.Proofs.Text.Cut
import RegistryAuth.Proofs.Unicode.LowerCase
import RegistryAuth.Proofs.Except
import RegistryAuth.Proofs.Url.Punycode
import RegistryAuth.Url.Basic

/-!
# Names that are shown in their own script

A host whose first label is the ASCII form of a name in another script is shown in that script.
What is shown then is never a name in ASCII, whatever its case (`Url.exists_foreign_of_shownHost`):

* a form is written back as it was, and the form of a label in ASCII ends with a hyphen, which no
  label may (`Punycode.encode_of_ascii`);
* the only character beyond ASCII that is lost in lower case is the sign of the kelvin, and no
  label may hold it (`Hostname.ne_kelvin_of_checkCodes`).
-/

namespace RegistryAuth
open Unicode

/-! ## Characters of labels -/

namespace Hostname

/-- What no label may hold: the dots, and the sign of the kelvin. -/
def strangers : List (Nat × Nat) :=
  [(0x2E, 0x2E), (0x212A, 0x212A), (0x3002, 0x3002), (0xFF0E, 0xFF0E), (0xFF61, 0xFF61)]

set_option maxRecDepth 20000 in
theorem allWords_hostRuns : hostRuns.AllWords (Run.avoids strangers) :=
  ⟨_, _, rfl, rfl, by decide +kernel⟩

set_option maxRecDepth 20000 in
theorem allWords_joinerRuns : joinerRuns.AllWords (Run.avoids strangers) :=
  ⟨_, _, rfl, rfl, by decide +kernel⟩

set_option maxRecDepth 20000 in
theorem allWords_companyRuns : companyRuns.AllWords (Run.avoids strangers) :=
  ⟨_, _, rfl, rfl, by decide +kernel⟩

/-- A label holds no characters but those of the three classes. -/
theorem holds_of_checkChars {label : List Nat} {cs : List Char} {position : Nat}
    {back : List Char} (h : checkChars label position back cs = .ok ()) :
    ∀ c ∈ cs, hostRuns.holds c = true ∨ joinerRuns.holds c = true ∨ companyRuns.holds c = true := by
  induction cs generalizing position back with
  | nil => exact List.forall_mem_nil _
  | cons c cs ih =>
    rw [checkChars] at h
    split at h
    · next hhost => exact List.forall_mem_cons.mpr ⟨.inl hhost, ih h⟩
    · split at h
      · next hjoiner =>
        split at h
        · exact List.forall_mem_cons.mpr ⟨.inr (.inl hjoiner), ih h⟩
        · cases h
        · cases h
      · split at h
        · next hcompany =>
          split at h
          · exact List.forall_mem_cons.mpr ⟨.inr (.inr hcompany), ih h⟩
          · cases h
        · cases h

/-- A label has no two hyphens behind its second character, and its characters are checked. -/
theorem checkCodes_eq_ok {codes : List Nat} (h : checkCodes codes = .ok ()) :
    ((codes.map charOf).drop 2).take 2 ≠ ['-', '-'] ∧
      checkChars codes 1 [] (codes.map charOf) = .ok () := by
  unfold checkCodes at h
  obtain ⟨-, h⟩ := Except.guard_eq_ok h
  obtain ⟨-, h⟩ := Except.guard_eq_ok h
  obtain ⟨-, h⟩ := Except.guard_eq_ok h
  obtain ⟨-, h⟩ := Except.guard_eq_ok h
  obtain ⟨hhyphens, h⟩ := Except.guard_eq_ok h
  obtain ⟨-, h⟩ := Except.guard_eq_ok h
  obtain ⟨-, h⟩ := Except.guard_eq_ok h
  obtain ⟨⟨⟩, hchars, -⟩ := Except.bind_eq_ok h
  exact ⟨hhyphens, hchars⟩

/-- No stranger is in a label. -/
theorem not_stranger_of_checkCodes {codes : List Nat} (h : checkCodes codes = .ok ()) {c : Char}
    (hc : c ∈ codes.map charOf) : ¬∃ range ∈ strangers, range.1 ≤ c.toNat ∧ c.toNat ≤ range.2 := by
  intro hstranger
  rcases holds_of_checkChars (checkCodes_eq_ok h).2 c hc with h | h | h
  · rw [allWords_hostRuns.holds_eq_false hstranger] at h; cases h
  · rw [allWords_joinerRuns.holds_eq_false hstranger] at h; cases h
  · rw [allWords_companyRuns.holds_eq_false hstranger] at h; cases h

/-- No label holds the sign of the kelvin. -/
theorem ne_kelvin_of_checkCodes {codes : List Nat} (h : checkCodes codes = .ok ()) {c : Char}
    (hc : c ∈ codes.map charOf) : c ≠ kelvin := by
  rintro rfl
  exact not_stranger_of_checkCodes h hc (by decide)

/-- No label holds a dot. -/
theorem isDot_eq_false_of_checkCodes {codes : List Nat} (h : checkCodes codes = .ok ()) {c : Char}
    (hc : c ∈ codes.map charOf) : isDot c = false := by
  have hnone := not_stranger_of_checkCodes h hc
  simp only [strangers, List.mem_cons, List.not_mem_nil, or_false, exists_eq_or_imp,
    exists_eq_left] at hnone
  simp only [isDot, Bool.or_eq_false_iff, decide_eq_false_iff_not]
  refine ⟨⟨⟨?_, by omega⟩, by omega⟩, by omega⟩
  rintro rfl
  exact hnone (.inl (by decide))

end Hostname

/-! ## Labels in ASCII -/

namespace Hostname

theorem charOf_toNat (c : Char) : charOf c.toNat = c := by
  have hvalid : c.toNat.isValidChar := c.valid
  rw [charOf, if_pos hvalid, Char.ofNat_toNat]

theorem map_charOf_map_toNat (cs : List Char) : (cs.map Char.toNat).map charOf = cs := by
  rw [List.map_map]
  exact (List.map_congr_left fun c _ => charOf_toNat c).trans (List.map_id cs)

theorem exists_foreign_of_isAscii {cs : List Char} (h : isAscii cs = false) :
    ∃ c ∈ cs, 128 ≤ c.toNat := by
  simpa [isAscii] using h

/-- How a label is read: one in another script is kept as it is, one in ASCII that is no form is
put into lower case, and a form stands for a label of which it is the form. -/
theorem labelToUnicode_cases {label shown : List Char} (h : labelToUnicode label = .ok shown) :
    (isAscii label = false ∧ checkLabel label = .ok () ∧ shown = label) ∨
      (Text.dropFront? mark (label.map Char.toLower) = none ∧
        checkLabel (label.map Char.toLower) = .ok () ∧ shown = label.map Char.toLower) ∨
      ∃ form codes, Text.dropFront? mark (label.map Char.toLower) = some form ∧ form ≠ [] ∧
        form.getLast? ≠ some '-' ∧ checkCodes codes = .ok () ∧ shown = codes.map charOf ∧
        Punycode.encode shown = form := by
  unfold labelToUnicode at h
  obtain ⟨-, h⟩ := Except.guard_eq_ok h
  split at h
  · next hascii =>
    obtain ⟨⟨⟩, hcheck, h⟩ := Except.bind_eq_ok h
    exact .inl ⟨by simpa using hascii, hcheck, (Except.ok.inj h).symm⟩
  · dsimp only at h
    cases hdrop : Text.dropFront? mark (label.map Char.toLower) with
    | none =>
      rw [hdrop] at h
      obtain ⟨⟨⟩, hcheck, h⟩ := Except.bind_eq_ok h
      exact .inr (.inl ⟨rfl, hcheck, (Except.ok.inj h).symm⟩)
    | some form =>
      rw [hdrop] at h
      obtain ⟨hne, h⟩ := Except.guard_eq_ok h
      obtain ⟨hlast, h⟩ := Except.guard_eq_ok h
      cases hdecode : Punycode.decode? form with
      | none => rw [hdecode] at h; cases h
      | some codes =>
        rw [hdecode] at h
        obtain ⟨⟨⟩, hcheck, h⟩ := Except.bind_eq_ok h
        obtain ⟨hform, h⟩ := Except.guard_eq_ok h
        obtain rfl := Except.ok.inj h
        exact .inr (.inr ⟨form, codes, rfl, by simpa using hne, hlast, hcheck, rfl,
          not_not.mp hform⟩)

/-- What a label is read as is a label. -/
theorem exists_codes_of_labelToUnicode {label shown : List Char}
    (h : labelToUnicode label = .ok shown) :
    ∃ codes, checkCodes codes = .ok () ∧ shown = codes.map charOf := by
  rcases labelToUnicode_cases h with ⟨-, hcheck, rfl⟩ | ⟨-, hcheck, rfl⟩ |
    ⟨form, codes, -, -, -, hcheck, hshown, -⟩
  · exact ⟨_, hcheck, (map_charOf_map_toNat _).symm⟩
  · exact ⟨_, hcheck, (map_charOf_map_toNat _).symm⟩
  · exact ⟨codes, hcheck, hshown⟩

/-- What a label in the ASCII form of another script stands for is not all in ASCII, nor in lower
case. -/
theorem exists_foreign_of_labelToUnicode {rest label : List Char}
    (h : labelToUnicode (mark ++ rest) = .ok label) :
    ∃ c ∈ label, 128 ≤ c.toNat ∧ c ≠ kelvin := by
  have hlower : Text.dropFront? mark ((mark ++ rest).map Char.toLower) =
      some (rest.map Char.toLower) :=
    Text.dropFront?_eq_some_iff.mpr (by rw [List.map_append]; rfl)
  obtain ⟨codes, hcheck, hcodes⟩ := exists_codes_of_labelToUnicode h
  have hkelvin : ∀ c ∈ label, c ≠ kelvin := fun c hc => ne_kelvin_of_checkCodes hcheck (hcodes ▸ hc)
  rcases labelToUnicode_cases h with ⟨hascii, -, rfl⟩ | ⟨hnone, -, -⟩ |
    ⟨form, -, hform, hne, hlast, -, -, hencode⟩
  · obtain ⟨c, hc, hforeign⟩ := exists_foreign_of_isAscii hascii
    exact ⟨c, hc, hforeign, hkelvin c hc⟩
  · rw [hlower] at hnone
    cases hnone
  · by_contra hnone
    have hascii : ∀ c ∈ label, c.toNat < 128 := by
      intro c hc
      by_contra hforeign
      exact hnone ⟨c, hc, by omega, hkelvin c hc⟩
    by_cases hempty : label = []
    · subst hempty
      exact hne (by rw [← hencode]; rfl)
    · rw [Punycode.encode_of_ascii hempty hascii] at hencode
      exact hlast (by rw [← hencode, List.getLast?_concat])

/-- The first label of a name that begins like the ASCII form of another script. -/
theorem exists_labels_mark (rest : List Char) :
    ∃ label others, (labels (mark ++ rest)).1 = (mark ++ label) :: others := by
  have hmap : (mark ++ rest).map (fun c => if isDot c then '.' else c) =
      mark ++ rest.map (fun c => if isDot c then '.' else c) := by
    rw [List.map_append]
    rfl
  obtain ⟨label, others, hsplit⟩ := Text.exists_splitOn_append (by decide : '.' ∉ mark)
    (rest.map fun c => if isDot c then '.' else c)
  rw [labels, hmap, hsplit]
  split
  · next hdotted =>
    cases others with
    | nil => cases hdotted
    | cons other others => exact ⟨label, _, rfl⟩
  · exact ⟨label, others, rfl⟩

/-- A name that begins like the ASCII form of another script is not shown in ASCII. -/
theorem exists_foreign_of_toUnicode {rest shown : List Char}
    (h : toUnicode (mark ++ rest) = .ok shown) :
    ∃ c ∈ shown, 128 ≤ c.toNat ∧ c ≠ kelvin := by
  obtain ⟨⟨name, dotted⟩, hchange, rfl⟩ := Except.map_eq_ok h
  clear h
  unfold changeLabels at hchange
  obtain ⟨-, hchange⟩ := Except.guard_eq_ok hchange
  obtain ⟨-, hchange⟩ := Except.guard_eq_ok hchange
  obtain ⟨label, others, hlabels⟩ := exists_labels_mark rest
  dsimp only at hchange
  rw [hlabels] at hchange
  obtain ⟨changed, hchanged, hjoined⟩ := Except.bind_eq_ok hchange
  rw [List.mapM_cons] at hchanged
  obtain ⟨first, hfirst, hchanged⟩ := Except.bind_eq_ok hchanged
  obtain ⟨behind, -, hchanged⟩ := Except.bind_eq_ok hchanged
  obtain ⟨rfl, -⟩ := Prod.mk.inj (Except.ok.inj hjoined)
  obtain rfl := Except.ok.inj hchanged
  obtain ⟨c, hc, hforeign⟩ := exists_foreign_of_labelToUnicode hfirst
  exact ⟨c, Text.mem_intercalate_of_mem (List.mem_append_left _ List.mem_cons_self) hc, hforeign⟩

end Hostname

/-- **A host that is shown in another script is not shown in ASCII**, and it is not in ASCII in
lower case either. -/
theorem Url.exists_foreign_of_shownHost {u : Url}
    (hmark : (Text.dropFront? Hostname.mark u.host).isSome = true) {shown : List Char}
    (h : u.shownHost = .ok shown) : ∃ d ∈ Unicode.lower shown, 128 ≤ d.toNat := by
  obtain ⟨rest, hrest⟩ := Option.isSome_iff_exists.mp hmark
  rw [Url.shownHost, if_pos hmark, Text.dropFront?_eq_some_iff.mp hrest] at h
  obtain ⟨c, hc, hforeign, hkelvin⟩ := Hostname.exists_foreign_of_toUnicode h
  exact Unicode.exists_foreign_of_lower hc hforeign hkelvin

end RegistryAuth
