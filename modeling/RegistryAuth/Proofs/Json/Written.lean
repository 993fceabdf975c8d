import RegistryAuth.Json.Printer
import RegistryAuth.Proofs.Json.Grammar

/-!
# Reading what was written

`Json.parse_render`: a document is read back from its text, if it holds no numbers and names
each member of an object once (`Json.IsPlain`).  Numbers are left out since not all of them are
read as they were: one with too many digits is not read at all, and no document that is stored
here has any.

* `exists_pieces`: what is written for one character is a piece, or the two halves of a pair.
* `writes_printItems`, `writes_printMembers`: the text of a list and of an object keeps to the
  grammar if the texts of the parts do.
* `IsPlain.writes`: both together, by induction on the value.
* `IsPlain.all_isShown_print`: the text is in printed ASCII.
-/

namespace RegistryAuth
namespace Json

/-! ## Characters and texts -/

theorem hexDigit?_hexChar {d : Nat} (h : d < 16) : Unicode.hexDigit? (Text.hexChar d) = some d := by
  have hall : ∀ d < 16, Unicode.hexDigit? (Text.hexChar d) = some d := by decide
  exact hall d h

/-- A code unit is read from its escape. -/
theorem hex4?_of_lt {n : Nat} (h : n < 0x10000) :
    hex4? (Text.hexChar (n / 16 / 16 / 16 % 16)) (Text.hexChar (n / 16 / 16 % 16))
      (Text.hexChar (n / 16 % 16)) (Text.hexChar (n % 16)) = some n := by
  have hdigit (k : Nat) : Unicode.hexDigit? (Text.hexChar (k % 16)) = some (k % 16) :=
    hexDigit?_hexChar (Nat.mod_lt k (by decide))
  have hsum : n / 16 / 16 / 16 % 16 * 4096 + n / 16 / 16 % 16 * 256 + n / 16 % 16 * 16 + n % 16 =
      n := by omega
  simp only [hex4?, hdigit, Option.bind_eq_bind, Option.bind_some, hsum]
  rfl

theorem unitEscape_eq (n : Nat) :
    unitEscape n = ['\\', 'u', Text.hexChar (n / 16 / 16 / 16 % 16),
      Text.hexChar (n / 16 / 16 % 16), Text.hexChar (n / 16 % 16), Text.hexChar (n % 16)] := rfl

/-- A character is no half of a surrogate pair. -/
theorem not_isSurrogate (c : Char) : c.toNat < 0xD800 ∨ 0xE000 ≤ c.toNat ∧ c.toNat < 0x110000 := by
  have hvalid : c.toNat.isValidChar := c.valid
  rcases hvalid with h | ⟨h, h'⟩
  · exact .inl h
  · exact .inr ⟨by omega, h'⟩

theorem ofNat_toNat (c : Char) : Code.ofNat c.toNat = .char c := by
  have hsurrogate : ¬(0xD800 ≤ c.toNat ∧ c.toNat < 0xE000) := by
    have := not_isSurrogate c
    omega
  rw [Code.ofNat, dif_neg hsurrogate, Char.ofNat_toNat]

theorem pairChar_toNat {c : Char} (h : 0x10000 ≤ c.toNat) :
    pairChar (0xD800 + (c.toNat - 0x10000) / 1024) (0xDC00 + (c.toNat - 0x10000) % 1024) = c := by
  have hsum : 0x10000 + (0xD800 + (c.toNat - 0x10000) / 1024 - 0xD800) * 1024 +
      (0xDC00 + (c.toNat - 0x10000) % 1024 - 0xDC00) = c.toNat := by omega
  rw [pairChar, hsum, Char.ofNat_toNat]

/-- What is written for a character of the basic plane is one piece. -/
theorem exists_piece {c : Char} (h : c.toNat < 0x10000) :
    ∃ p : Piece, p.Written (printChar c) ∧ ∀ ps, codes (p :: ps) = .char c :: codes ps := by
  have hbound := not_isSurrogate c
  have hchar (ps : List Piece) : codes (.char c :: ps) = .char c :: codes ps := by rw [codes]
  have hcontrol {n : Nat} (hn : c.toNat = n) : c = Char.ofNat n := by rw [← hn, Char.ofNat_toNat]
  unfold printChar
  split_ifs with hquote hescape hline hreturn htab hback hfeed hplain
  · exact ⟨.char c, .escape (by simp [escapes, hquote]), hchar⟩
  · exact ⟨.char c, .escape (by simp [escapes, hescape]), hchar⟩
  · exact ⟨.char c, .escape (by simp [escapes, hline]), hchar⟩
  · exact ⟨.char c, .escape (by simp [escapes, hreturn]), hchar⟩
  · exact ⟨.char c, .escape (by simp [escapes, htab]), hchar⟩
  · exact ⟨.char c, .escape (by simp [escapes, hcontrol hback]), hchar⟩
  · exact ⟨.char c, .escape (by simp [escapes, hcontrol hfeed]), hchar⟩
  · exact ⟨.char c, .plain hquote hescape hplain.1, hchar⟩
  · refine ⟨.unit c.toNat, .unit (hex4?_of_lt h), fun ps => ?_⟩
    rw [codes_unit fun hhigh => absurd hhigh (by omega), ofNat_toNat]

/-- What is written for a character are pieces, which stand for it in front of any others. -/
theorem exists_pieces (c : Char) :
    ∃ qs, (∀ ps body, Quoted ps body → Quoted (qs ++ ps) (printChar c ++ body)) ∧
      ∀ ps, codes (qs ++ ps) = .char c :: codes ps := by
  by_cases h : c.toNat < 0x10000
  · obtain ⟨p, hwritten, hchars⟩ := exists_piece h
    exact ⟨[p], fun _ _ hbody => .cons hwritten hbody, hchars⟩
  · have hbound := not_isSurrogate c
    have hne {d : Char} (hd : d.toNat < 0x10000) : c ≠ d := fun heq => h (heq ▸ hd)
    have hprint : printChar c = unitEscape (0xD800 + (c.toNat - 0x10000) / 1024) ++
        unitEscape (0xDC00 + (c.toNat - 0x10000) % 1024) := by
      rw [printChar, if_neg (hne (by decide)), if_neg (hne (by decide)), if_neg (hne (by decide)),
        if_neg (hne (by decide)), if_neg (hne (by decide)), if_neg (by omega), if_neg (by omega),
        if_neg (by omega), if_neg h]
    refine ⟨[.unit (0xD800 + (c.toNat - 0x10000) / 1024),
      .unit (0xDC00 + (c.toNat - 0x10000) % 1024)], fun ps body hbody => ?_, fun ps => ?_⟩
    · rw [hprint, List.append_assoc]
      exact .cons (.unit (hex4?_of_lt (by omega))) (.cons (.unit (hex4?_of_lt (by omega))) hbody)
    · have hpair := codes_pair (n := 0xD800 + (c.toNat - 0x10000) / 1024)
        (m := 0xDC00 + (c.toNat - 0x10000) % 1024) (by omega) (by omega) ps
      rw [pairChar_toNat (by omega)] at hpair
      exact hpair

/-- What is written for characters are pieces that stand for them. -/
theorem quoted_flatMap (cs : List Char) :
    ∃ ps, Quoted ps (cs.flatMap printChar) ∧ codes ps = cs.map .char := by
  induction cs with
  | nil => exact ⟨[], .nil, by rw [codes, List.map_nil]⟩
  | cons c cs ih =>
    obtain ⟨ps, hquoted, hchars⟩ := ih
    obtain ⟨qs, hpieces, hfirst⟩ := exists_pieces c
    exact ⟨qs ++ ps, hpieces ps _ hquoted, by rw [hfirst, hchars, List.map_cons]⟩

theorem printString_whole (s : String) :
    printString (.whole s) = '"' :: s.toList.flatMap printChar ++ ['"'] := by
  rw [printString, CodeText.codes_whole, List.flatMap_map]
  rfl

/-- A text of characters is written in pieces that stand for it. -/
theorem exists_quoted (s : String) :
    ∃ ps, Quoted ps (s.toList.flatMap printChar) ∧ CodeText.ofCodes (codes ps) = .whole s := by
  obtain ⟨ps, hquoted, hcodes⟩ := quoted_flatMap s.toList
  exact ⟨ps, hquoted, by rw [hcodes, CodeText.ofCodes_chars, String.ofList_toList]⟩

theorem writes_printString (s : String) : WritesScalar (.str s) (printString s) := by
  obtain ⟨ps, hquoted, hcodes⟩ := exists_quoted s
  have hwrites := WritesScalar.str hquoted
  rwa [hcodes, ← List.cons_append, ← printString_whole] at hwrites

/-! ## Values -/

/-- Values without numbers and halves, in which an object names each of its members once. -/
inductive IsPlain : Json → Prop where
  | null : IsPlain .null
  | bool (b : Bool) : IsPlain (.bool b)
  | str (s : String) : IsPlain (.str s)
  | arr {items : List Json} (plain : ∀ v ∈ items, IsPlain v) : IsPlain (.arr items)
  | obj {members : List (CodeText × Json)} (names : (members.map Prod.fst).Nodup)
      (whole : ∀ kv ∈ members, ∃ name : String, kv.1 = name)
      (plain : ∀ kv ∈ members, IsPlain kv.2) : IsPlain (.obj members)

theorem isSpaces_nil : IsSpaces [] := List.forall_mem_nil _

theorem isSpaces_blank : IsSpaces [' '] := by
  intro c hc
  rw [List.mem_singleton.mp hc]
  rfl

/-- The text of a list keeps to the grammar, if the texts of its items do. -/
theorem writes_printItems (v : Json) (items : List Json)
    (h : ∀ w ∈ v :: items, Writes (.value w) (print w)) :
    Writes (.items (v :: items)) (print v ++ printItems items) := by
  induction items generalizing v with
  | nil => exact .lastItem (h v List.mem_cons_self) isSpaces_nil
  | cons w items ih =>
    obtain ⟨hv, hitems⟩ := List.forall_mem_cons.mp h
    have hprint : print v ++ printItems (w :: items) =
        print v ++ ([] ++ ',' :: ([' '] ++ (print w ++ printItems items))) := by
      simp [printItems]
    rw [hprint]
    exact .item hv isSpaces_nil isSpaces_blank (ih w hitems)

/-- The text of an object keeps to the grammar, if the texts of its members do and its names
hold no halves. -/
theorem writes_printMembers (key : CodeText) (v : Json) (members : List (CodeText × Json))
    (hwhole : ∀ kv ∈ (key, v) :: members, ∃ name : String, kv.1 = name)
    (h : ∀ kv ∈ (key, v) :: members, Writes (.value kv.2) (print kv.2)) :
    Writes (.members ((key, v) :: members))
      (printString key ++ ([':', ' '] ++ (print v ++ printMembers members))) := by
  induction members generalizing key v with
  | nil =>
    obtain ⟨hv, -⟩ := List.forall_mem_cons.mp h
    obtain ⟨⟨name, rfl⟩, -⟩ := List.forall_mem_cons.mp hwhole
    obtain ⟨ps, hquoted, hcodes⟩ := exists_quoted name
    have hwrites := Writes.lastMember hquoted isSpaces_nil isSpaces_blank hv isSpaces_nil
    rw [hcodes] at hwrites
    simpa [printString_whole, printMembers] using hwrites
  | cons kv members ih =>
    obtain ⟨hv, hmembers⟩ := List.forall_mem_cons.mp h
    obtain ⟨⟨name, rfl⟩, hnames⟩ := List.forall_mem_cons.mp hwhole
    obtain ⟨ps, hquoted, hcodes⟩ := exists_quoted name
    have hwrites := Writes.member hquoted isSpaces_nil isSpaces_blank hv isSpaces_nil
      isSpaces_blank (ih kv.1 kv.2 hnames hmembers)
    rw [hcodes] at hwrites
    simpa [printString_whole, printMembers] using hwrites

theorem insert_of_not_mem {key : CodeText} (v : Json) {members : List (CodeText × Json)}
    (h : key ∉ members.map Prod.fst) : insert key v members = members ++ [(key, v)] := by
  induction members with
  | nil => rfl
  | cons kv members ih =>
    rw [List.map_cons, List.mem_cons, not_or] at h
    rw [insert, if_neg (Ne.symm h.1), ih h.2, List.cons_append]

/-- An object of which each member is named once has the members as they are written. -/
theorem ofMembers_eq {members : List (CodeText × Json)} (h : (members.map Prod.fst).Nodup) :
    ofMembers members = .obj members := by
  have hfold : ∀ rest acc : List (CodeText × Json), ((acc ++ rest).map Prod.fst).Nodup →
      rest.foldl (fun acc kv => insert kv.1 kv.2 acc) acc = acc ++ rest := by
    intro rest
    induction rest with
    | nil => simp
    | cons kv rest ih =>
      intro acc hnodup
      rw [List.append_cons] at hnodup
      have hkey : kv.1 ∉ acc.map Prod.fst := by
        rw [List.map_append, List.map_append] at hnodup
        have hdisjoint := List.disjoint_of_nodup_append (List.Nodup.of_append_left hnodup)
        exact fun hmem => hdisjoint hmem (by simp)
      rw [List.foldl_cons, insert_of_not_mem _ hkey, ih _ hnodup, ← List.append_cons]
  rw [ofMembers, hfold members [] h, List.nil_append]

/-- The text of a plain value keeps to the grammar. -/
theorem IsPlain.writes {v : Json} (h : v.IsPlain) : Writes (.value v) (print v) := by
  induction h with
  | null => exact .scalar .null
  | bool b =>
    cases b with
    | false => exact .scalar .no
    | true => exact .scalar .yes
  | str s => exact .scalar (writes_printString s)
  | @arr items hplain ih =>
    cases items with
    | nil => exact .emptyList isSpaces_nil
    | cons v items =>
      have hwrites := Writes.list isSpaces_nil (writes_printItems v items ih)
      simpa [print] using hwrites
  | @obj members hnames hwhole hplain ih =>
    cases members with
    | nil => exact .emptyObject isSpaces_nil
    | cons kv members =>
      have hwrites := Writes.object isSpaces_nil (writes_printMembers kv.1 kv.2 members hwhole ih)
      rw [ofMembers_eq hnames] at hwrites
      simpa [print] using hwrites

/-- **A plain document is read back from its text.** -/
theorem parse_render {v : Json} (h : v.IsPlain) : parse (render v) = .ok v := by
  refine parse_eq_ok_iff.mpr ⟨[], print v, [], isSpaces_nil, h.writes, isSpaces_nil, ?_⟩
  rw [render, String.toList_ofList, List.nil_append, List.append_nil]

/-- A letter with an accent, a character beyond the basic plane, and one that is not shown. -/
example : render (.arr [.str "é😀\x7f", .bool true]) =
    "[\"\\u00e9\\ud83d\\ude00\\u007f\", true]" := by decide +kernel

/-! ## The characters of a document -/

/-- Whether a character is printed in ASCII. -/
def isShown (c : Char) : Bool := 32 ≤ c.toNat && c.toNat < 127

theorem all_isShown_unitEscape (n : Nat) : (unitEscape n).all isShown = true := by
  have hhex (k : Nat) : isShown (Text.hexChar (k % 16)) = true := by
    have hall : ∀ d < 16, isShown (Text.hexChar d) = true := by decide
    exact hall _ (Nat.mod_lt k (by decide))
  rw [unitEscape_eq]
  simp only [List.all_cons, hhex, List.all_nil, Bool.and_true]
  rfl

theorem all_isShown_printChar (c : Char) : (printChar c).all isShown = true := by
  unfold printChar
  split_ifs with _ _ _ _ _ _ _ hplain
  -- the escapes of two characters are in ASCII as they stand
  any_goals decide
  · simp [isShown, hplain]
  · exact all_isShown_unitEscape c.toNat
  · rw [List.all_append, all_isShown_unitEscape, all_isShown_unitEscape]
    rfl

theorem all_isShown_printCode (c : Code) : (printCode c).all isShown = true := by
  cases c with
  | char c => exact all_isShown_printChar c
  | half h => exact all_isShown_unitEscape _

theorem all_isShown_printString (s : CodeText) : (printString s).all isShown = true := by
  have hquote : isShown '"' = true := by decide
  simp [printString, hquote, List.all_flatMap, all_isShown_printCode]

theorem all_isShown_printItems {items : List Json}
    (h : ∀ v ∈ items, (print v).all isShown = true) : (printItems items).all isShown = true := by
  induction items with
  | nil => rfl
  | cons v items ih =>
    obtain ⟨hv, hitems⟩ := List.forall_mem_cons.mp h
    rw [printItems, List.all_append, List.all_append, hv, ih hitems]
    rfl

theorem all_isShown_printMembers {members : List (CodeText × Json)}
    (h : ∀ kv ∈ members, (print kv.2).all isShown = true) :
    (printMembers members).all isShown = true := by
  induction members with
  | nil => rfl
  | cons kv members ih =>
    obtain ⟨key, v⟩ := kv
    obtain ⟨hv, hmembers⟩ := List.forall_mem_cons.mp h
    simp only [printMembers, List.all_append, all_isShown_printString, hv, ih hmembers]
    rfl

/-- A plain document is written in printed ASCII. -/
theorem IsPlain.all_isShown_print {v : Json} (h : v.IsPlain) : (print v).all isShown = true := by
  induction h with
  | null => decide
  | bool b => cases b <;> decide
  | str s =>
    rw [print]
    exact all_isShown_printString s
  | @arr items hplain ih =>
    cases items with
    | nil => decide
    | cons v items =>
      obtain ⟨hv, hitems⟩ := List.forall_mem_cons.mp ih
      simp only [print, List.all_append, List.all_cons, hv, all_isShown_printItems hitems]
      rfl
  | @obj members hnames hwhole hplain ih =>
    cases members with
    | nil => decide
    | cons kv members =>
      obtain ⟨key, v⟩ := kv
      obtain ⟨hv, hmembers⟩ := List.forall_mem_cons.mp ih
      simp only [print, List.all_append, List.all_cons, all_isShown_printString, hv,
        all_isShown_printMembers hmembers]
      rfl

end Json
end RegistryAuth
