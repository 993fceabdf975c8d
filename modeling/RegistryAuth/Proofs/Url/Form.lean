import RegistryAuth.Proofs.Text.Cut
import RegistryAuth.Proofs.Text.Utf8
import RegistryAuth.Proofs.Unicode.Ascii
import RegistryAuth.Url.Percent

/-!
# Reading forms that were written

The fields of a form are read back as they were written, whatever their names and values hold
(`Form.decode_encode`).  Two things are behind it:

* A name or a value is written without the signs that divide a form (`Form.of_mem_encodePart`), so
  that a field ends where it was ended (`Form.splitOn_encode`).
* Each character of it is read as the bytes that stand for it in UTF-8, by whichever of the three
  ways it was written (`Form.bytes_encodeChar`), and those are read as the character.

## Why bytes

A text without a percent sign is read as it stands, and any other through its bytes.  The two
are the same (`Percent.unescape_eq`), so that one argument over the bytes does for both.
-/

namespace RegistryAuth

/-! ## Bytes behind percent signs -/

namespace Percent

/-- A character that is no percent sign stands for its own bytes. -/
theorem bytes_cons {c : Char} (hc : c ≠ '%') (cs : List Char) :
    bytes (c :: cs) = Text.Utf8.encodeChar c ++ bytes cs := by
  rw [bytes]
  rintro a b ds rfl
  exact absurd rfl hc

theorem hexDigit?_toUpper_hexChar {n : Nat} (h : n < 16) :
    Unicode.hexDigit? (Text.hexChar n).toUpper = some n := by
  have hall : ∀ n < 16, Unicode.hexDigit? (Text.hexChar n).toUpper = some n := by decide
  exact hall n h

theorem escapeByte_eq (b : UInt8) :
    escapeByte b = ['%', (Text.hexChar (b.toNat / 16 % 16)).toUpper,
      (Text.hexChar (b.toNat % 16)).toUpper] := rfl

/-- An escaped byte is read back. -/
theorem bytes_escapeByte (b : UInt8) (rest : List Char) :
    bytes (escapeByte b ++ rest) = b :: bytes rest := by
  have hb : b.toNat < 256 := b.toNat_lt
  have hvalue : 16 * (b.toNat / 16 % 16) + b.toNat % 16 = b.toNat := by omega
  rw [escapeByte_eq, List.cons_append, List.cons_append, List.cons_append, List.nil_append, bytes,
    hexDigit?_toUpper_hexChar (Nat.mod_lt _ (by decide)),
    hexDigit?_toUpper_hexChar (Nat.mod_lt _ (by decide))]
  dsimp only
  rw [hvalue, UInt8.ofNat_toNat]

theorem bytes_flatMap_escapeByte (bs : List UInt8) (rest : List Char) :
    bytes (bs.flatMap escapeByte ++ rest) = bs ++ bytes rest := by
  induction bs with
  | nil => rfl
  | cons b bs ih =>
    rw [List.flatMap_cons, List.append_assoc, bytes_escapeByte, ih, List.cons_append]

/-- The bytes of a text are read as that text. -/
theorem replaceFaults_encode (cs : List Char) : replaceFaults (Text.Utf8.encode cs) = cs := by
  induction cs with
  | nil => rw [Text.Utf8.encode, List.flatMap_nil, replaceFaults]
  | cons c cs ih =>
    obtain ⟨b, bs, hbytes, hfront⟩ := Text.Utf8.front_encodeChar c (Text.Utf8.encode cs)
    have hencode : Text.Utf8.encode (c :: cs) = b :: (bs ++ Text.Utf8.encode cs) := by
      rw [Text.Utf8.encode, List.flatMap_cons, hbytes]
      rfl
    rw [hencode, replaceFaults, hfront]
    simp only [Nat.add_sub_cancel, List.drop_left, ih]

theorem bytes_of_not_mem {cs : List Char} (h : '%' ∉ cs) : bytes cs = Text.Utf8.encode cs := by
  induction cs with
  | nil => rfl
  | cons c cs ih =>
    obtain ⟨hc, hcs⟩ := not_or.mp (mt List.mem_cons.mpr h)
    rw [bytes_cons (Ne.symm hc), ih hcs]
    rfl

/-- A text is read through its bytes, whether it holds an escape or not. -/
theorem unescape_eq (cs : List Char) : unescape cs = replaceFaults (bytes cs) := by
  unfold unescape
  split
  · rfl
  · next h =>
    rw [bytes_of_not_mem (by simpa using h), replaceFaults_encode]

end Percent

namespace Form

/-! ## Names and values -/

theorem toNat_lt_of_isUnreserved {c : Char} (hc : Percent.isUnreserved c = true) :
    c.toNat < 128 := by
  simp only [Percent.isUnreserved, Bool.or_eq_true, decide_eq_true_eq] at hc
  rcases hc with (((hc | rfl) | rfl) | rfl) | rfl
  · exact Unicode.toNat_lt_of_isAsciiWord (by rw [Unicode.isAsciiWord, hc]; rfl)
  all_goals decide

/-- A character that needs no escape is none of the signs of a form. -/
theorem of_isUnreserved {c : Char} (hc : Percent.isUnreserved c = true) : c ∉ "+%&=".toList :=
  Char.forall_ascii (P := fun c => Percent.isUnreserved c = true → c ∉ "+%&=".toList)
    (by decide +kernel) (toNat_lt_of_isUnreserved hc) hc

/-- An escape is a percent sign and two digits. -/
theorem of_mem_escapeByte {b : UInt8} {d : Char} (hd : d ∈ Percent.escapeByte b) :
    Percent.isUnreserved d = true ∨ d = '%' := by
  have hhex : ∀ n < 16, Percent.isUnreserved (Text.hexChar n).toUpper = true := by decide +kernel
  simp only [Percent.escapeByte_eq, List.mem_cons, List.not_mem_nil, or_false] at hd
  rcases hd with rfl | rfl | rfl
  · exact Or.inr rfl
  · exact Or.inl (hhex _ (Nat.mod_lt _ (by decide)))
  · exact Or.inl (hhex _ (Nat.mod_lt _ (by decide)))

theorem of_mem_encodeChar {c d : Char} (hd : d ∈ encodeChar c) :
    Percent.isUnreserved d = true ∨ d = '%' ∨ d = '+' := by
  unfold encodeChar at hd
  split at hd
  · exact Or.inr (Or.inr (List.mem_singleton.mp hd))
  · split at hd
    · next hc =>
      rw [List.mem_singleton.mp hd]
      exact Or.inl hc
    · obtain ⟨b, -, hd⟩ := List.mem_flatMap.mp hd
      exact (of_mem_escapeByte hd).imp_right Or.inl

/-- A name or a value is written in letters, digits and a few signs, whatever it holds. -/
theorem of_mem_encodePart {cs : List Char} {d : Char} (hd : d ∈ encodePart cs) :
    Percent.isUnreserved d = true ∨ d = '%' ∨ d = '+' := by
  obtain ⟨c, -, hd⟩ := List.mem_flatMap.mp hd
  exact of_mem_encodeChar hd

/-- The signs that divide a form stand in no name and no value. -/
theorem not_mem_encodePart {d : Char} (hd : d = '&' ∨ d = '=') (cs : List Char) :
    d ∉ encodePart cs := by
  intro hmem
  rcases of_mem_encodePart hmem with h | rfl | rfl
  · exact of_isUnreserved h (by rcases hd with rfl | rfl <;> decide)
  · rcases hd with hd | hd <;> exact absurd hd (by decide)
  · rcases hd with hd | hd <;> exact absurd hd (by decide)

/-- The blank that a plus sign stands for. -/
theorem map_plus_of_not_mem {cs : List Char} (h : '+' ∉ cs) :
    cs.map (fun c => if c = '+' then ' ' else c) = cs := by
  conv_rhs => rw [← List.map_id cs]
  refine List.map_congr_left fun c hc => if_neg ?_
  rintro rfl
  exact h hc

/-- A character is read as its bytes, in whichever way it was written. -/
theorem bytes_encodeChar (c : Char) (rest : List Char) :
    Percent.bytes ((encodeChar c).map (fun c => if c = '+' then ' ' else c) ++ rest) =
      Text.Utf8.encodeChar c ++ Percent.bytes rest := by
  unfold encodeChar
  split
  · next hblank =>
    rw [hblank]
    exact Percent.bytes_cons (by decide) rest
  · split
    · next hc =>
      have hsign := of_isUnreserved hc
      have hplus : c ≠ '+' := fun h => hsign (by rw [h]; decide)
      have hpercent : c ≠ '%' := fun h => hsign (by rw [h]; decide)
      rw [List.map_singleton, if_neg hplus]
      exact Percent.bytes_cons hpercent rest
    · have hplus : '+' ∉ Percent.escapeChar c := by
        intro hmem
        obtain ⟨b, -, hb⟩ := List.mem_flatMap.mp hmem
        rcases of_mem_escapeByte hb with h | h
        · exact of_isUnreserved h (by decide)
        · exact absurd h (by decide)
      rw [map_plus_of_not_mem hplus]
      exact Percent.bytes_flatMap_escapeByte _ rest

/-- **A name or a value is read back.** -/
theorem decodePart_encodePart (cs : List Char) : decodePart (encodePart cs) = cs := by
  have hbytes : Percent.bytes ((encodePart cs).map fun c => if c = '+' then ' ' else c) =
      Text.Utf8.encode cs := by
    induction cs with
    | nil => rfl
    | cons c cs ih =>
      rw [encodePart, List.flatMap_cons, List.map_append, bytes_encodeChar, ← encodePart, ih]
      rfl
  rw [decodePart, Percent.unescape_eq, hbytes, Percent.replaceFaults_encode]

/-! ## Fields -/

theorem decodeField_encodeField (field : List Char × List Char) :
    decodeField (encodeField field) = field := by
  have hname : ∀ c ∈ encodePart field.1, decide (c = '=') = false :=
    Text.decide_eq_false_of_not_mem (not_mem_encodePart (.inr rfl) field.1)
  have hcut : Text.cut? (· = '=') (encodeField field) =
      some (encodePart field.1, encodePart field.2) :=
    Text.cut?_append hname (decide_eq_true rfl) _
  simp only [decodeField, hcut, decodePart_encodePart]

theorem not_mem_encodeField (field : List Char × List Char) : '&' ∉ encodeField field := by
  intro hmem
  rw [encodeField, List.mem_append, List.mem_cons] at hmem
  rcases hmem with h | h | h
  · exact not_mem_encodePart (.inl rfl) _ h
  · exact absurd h (by decide)
  · exact not_mem_encodePart (.inl rfl) _ h

/-- A form is divided into the fields that it was put together from. -/
theorem splitOn_encode {fields : List (List Char × List Char)} (hne : fields ≠ []) :
    Text.splitOn '&' (encode fields) = fields.map encodeField := by
  refine Text.splitOn_intercalate (by simpa using hne) fun part hpart => ?_
  obtain ⟨field, -, rfl⟩ := List.mem_map.mp hpart
  exact not_mem_encodeField field

/-- **The fields of a form are read back**, whatever their names and values hold. -/
theorem decode_encode (fields : List (List Char × List Char)) :
    decode (encode fields) = fields := by
  by_cases hne : fields = []
  · subst hne
    rfl
  · have hfilled : ∀ part ∈ fields.map encodeField, (!part.isEmpty) = true := by
      intro part hpart
      obtain ⟨field, -, rfl⟩ := List.mem_map.mp hpart
      simp [encodeField]
    rw [decode, splitOn_encode hne, List.filter_eq_self.mpr hfilled, List.map_map]
    exact (List.map_congr_left fun field _ => decodeField_encodeField field).trans
      (List.map_id fields)

/-- The fields that a text holds, as strings. -/
def fields (cs : List Char) : List (String × String) :=
  (decode cs).map fun (k, v) => (String.ofList k, String.ofList v)

theorem fields_encodeStrings (items : List (String × String)) :
    fields (encodeStrings items).toList = items := by
  rw [fields, encodeStrings, String.toList_ofList, decode_encode, List.map_map]
  refine (List.map_congr_left fun field _ => ?_).trans (List.map_id items)
  simp

end Form
end RegistryAuth
