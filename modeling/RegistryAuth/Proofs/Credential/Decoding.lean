import RegistryAuth.Proofs.Credential.Combined
import RegistryAuth.Proofs.Credential.Discretion

/-!
# What a combined form says

Of all credentials a configuration may give only the text of a combined form.  That text says a
name and a password (`BasicAuth.Says`) if it is written in base64, the bytes that it writes are
UTF-8, and a colon stands in what they say; `BasicAuth.decodePair_eq_some_iff` holds the reader to
this.  A text that says nothing is passed over, as long as it is in ASCII, and the identity is
then the one of nobody (`BasicAuth.identity_of_combined_text`).

## Why ASCII comes in

A text in base64 is in ASCII, so one that is not says nothing and should be passed over like all
others.  It is refused instead: the reader of base64 is never reached
(`BasicAuth.identity_of_foreign_text`).
-/

namespace RegistryAuth
namespace BasicAuth

variable {auth username password : String}

/-- The text says a name and a password: it is written in base64 and does not open with filling,
and its bytes are UTF-8 for the two with a colon between them, the first that stands there. -/
structure Says (auth username password : String) : Prop where
  noFilling : auth.toList.head? ≠ some '='
  writes : Text.Base64.Writes auth.toList
    (Text.Utf8.encode (username.toList ++ ':' :: password.toList))
  noColon : ':' ∉ username.toList

/-- What is read is what the text says. -/
theorem decodePair_eq_some_iff :
    decodePair auth = some (username, password) ↔ Says auth username password := by
  constructor
  · intro h
    rw [decodePair] at h
    split at h
    · cases h
    · rename_i bytes hbytes
      obtain ⟨hfilling, hwrites⟩ := Text.Base64.decodeStrict_eq_some_iff.mp hbytes
      split at h
      · cases h
      · rename_i cs hcs
        obtain ⟨⟨user, pwd⟩, hcut, hpair⟩ := Option.map_eq_some_iff.mp h
        obtain ⟨rfl, rfl⟩ := Prod.mk.inj hpair
        obtain ⟨c, hc, rfl, hfront⟩ := Text.cut?_eq_some hcut
        obtain rfl : c = ':' := of_decide_eq_true hc
        rw [← Text.Utf8.decode_eq_ok_iff.mp hcs] at hwrites
        refine ⟨hfilling, by simpa using hwrites, fun hmem => ?_⟩
        rw [String.toList_ofList] at hmem
        exact absurd (hfront ':' hmem) (by decide)
  · intro h
    have hcut : Text.cut? (· = ':') (username.toList ++ ':' :: password.toList) =
        some (username.toList, password.toList) :=
      Text.cut?_append (Text.decide_eq_false_of_not_mem h.noColon) (decide_eq_true rfl) _
    simp only [decodePair, Text.Base64.decodeStrict_eq_some_iff.mpr ⟨h.noFilling, h.writes⟩,
      Text.Utf8.decode_encode, hcut, Option.map_some, String.ofList_toList]

theorem decodePair_eq_none (h : ∀ username password, ¬Says auth username password) :
    decodePair auth = none := by
  cases hpair : decodePair auth with
  | none => rfl
  | some pair => exact absurd (decodePair_eq_some_iff.mp hpair) (h pair.1 pair.2)

theorem Says.isAscii (h : Says auth username password) : isAscii auth = true :=
  (isAscii_of_decodePair (decodePair_eq_some_iff.mpr h)).1

namespace IsCombined

variable {b : BasicAuth}

theorem identity_of_isAscii (hb : b.IsCombined) (hascii : isAscii b.auth = true) (fs : Files)
    (hpair : (decodePair b.auth).getD ("", "") = (username, password)) :
    b.identity fs = .ok (.password username password b.serverAddress) :=
  identity_of_combined hascii hb.noToken hb.noFile hb.noUsername hb.noPassword hpair

/-- A text that is not in ASCII is refused before it is read. -/
theorem identity_of_not_isAscii (hb : b.IsCombined) (hascii : isAscii b.auth = false) (fs : Files) :
    b.identity fs = .error .notAscii := by
  have hempty : b.auth ≠ "" := by
    intro hempty
    rw [hempty] at hascii
    cases hascii
  simp [identity, pair, hb.noFile, hb.noUsername, hb.noPassword, hempty, hascii, Except.map]

end IsCombined

/-- **What the combined form gives.**  Where nothing else is given, the identity is the name and
the password that the text says, and nobody's where it says none; the address is kept.  The one
failure is of a text that is not in ASCII, and each of those fails. -/
theorem identity_of_combined_text {b : BasicAuth} (hb : b.IsCombined) (fs : Files) :
    (∀ username password, Says b.auth username password →
      b.identity fs = .ok (.password username password b.serverAddress)) ∧
    ((∀ username password, ¬Says b.auth username password) → isAscii b.auth = true →
      b.identity fs = .ok (.password "" "" b.serverAddress)) ∧
    (isAscii b.auth = false → b.identity fs = .error .notAscii) ∧
    ((∃ e, b.identity fs = .error e) ↔ isAscii b.auth = false) := by
  have hsaid (username password : String) (h : Says b.auth username password) :
      b.identity fs = .ok (.password username password b.serverAddress) :=
    hb.identity_of_isAscii h.isAscii fs (by rw [decodePair_eq_some_iff.mpr h]; rfl)
  have hunsaid (h : ∀ username password, ¬Says b.auth username password)
      (hascii : isAscii b.auth = true) :
      b.identity fs = .ok (.password "" "" b.serverAddress) :=
    hb.identity_of_isAscii hascii fs (by rw [decodePair_eq_none h]; rfl)
  have hrefused (h : isAscii b.auth = false) : b.identity fs = .error .notAscii :=
    hb.identity_of_not_isAscii h fs
  refine ⟨hsaid, hunsaid, hrefused, ?_, fun h => ⟨_, hrefused h⟩⟩
  rintro ⟨e, he⟩
  by_contra hascii
  rw [Bool.not_eq_false] at hascii
  by_cases h : ∃ username password, Says b.auth username password
  · obtain ⟨username, password, h⟩ := h
    rw [hsaid username password h] at he
    cases he
  · simp only [not_exists] at h
    rw [hunsaid h hascii] at he
    cases he

/-- A group of two digits at the end, whose last bits are not zero. -/
theorem identity_of_combined_text_spare_bits :
    let b : BasicAuth := { BasicAuth.empty with auth := "dTpwYR==", serverAddress := "r" }
    let fs : Files := ⟨fun _ => .missing⟩
    b.IsCombined ∧ Says b.auth "u" "pa" ∧ b.identity fs = .ok (.password "u" "pa" "r") := by
  intro b fs
  have hb : b.IsCombined := ⟨rfl, rfl, rfl, rfl⟩
  have htext : b.auth.toList = ['d', 'T', 'p', 'w', 'Y', 'R', '=', '='] := by decide
  have hbytes : Text.Utf8.encode ("u".toList ++ ':' :: "pa".toList) = [0x75, 0x3A, 0x70, 0x61] := by
    decide +kernel
  have hsays : Says b.auth "u" "pa" := by
    refine ⟨by decide, ?_, by decide⟩
    rw [htext, hbytes]
    exact .group rfl rfl rfl rfl rfl (.one rfl rfl rfl)
  exact ⟨hb, hsays, (identity_of_combined_text hb fs).1 "u" "pa" hsays⟩

/-- **A text beyond ASCII.**  It is no combined form, and yet it is not passed over. -/
theorem identity_of_foreign_text :
    let b : BasicAuth := { BasicAuth.empty with auth := "é", serverAddress := "s" }
    let fs : Files := ⟨fun _ => .missing⟩
    b.IsCombined ∧ decodePair b.auth = none ∧ b.identity fs = .error .notAscii ∧
      b.identity fs ≠ .ok (.password "" "" "s") := by
  intro b fs
  have hidentity : b.identity fs = .error .notAscii := by cbv
  refine ⟨⟨rfl, rfl, rfl, rfl⟩, by cbv, hidentity, fun hsame => ?_⟩
  cases hidentity.symm.trans hsame

end BasicAuth
end RegistryAuth
