import RegistryAuth.Proofs.Credential.Authorization
import RegistryAuth.Proofs.Credential.Precedence
import RegistryAuth.Proofs.Text.Base64
import RegistryAuth.Proofs.Text.Cut
import RegistryAuth.Proofs.Text.Utf8

/-!
# The combined form of a name and a password

A name and a password are presented in one text, and the same text may stand in a configuration.
Writing it and reading it undo each other (`BasicAuth.combined_undone`): a configuration gives the
name and the password that its text was written for, and what it gives is written as that text.  So
what is presented tells who presents it.

## Why names without a colon

The text is divided at its first colon (`BasicAuth.decodePair_combine`).  A password may hold
colons, but of a name that holds one the password would get a part.
-/

namespace RegistryAuth
namespace BasicAuth

/-- The combined form of a text: its bytes in base64. -/
def combine (text : List Char) : String :=
  String.ofList (Text.Base64.encode (Text.Utf8.encode text))

/-- A name and a password are presented in their combined form. -/
theorem basic_eq_combine (username password : String) :
    Authorization.basic username password =
      "Basic " ++ combine (username.toList ++ ':' :: password.toList) := rfl

theorem basic_eq_iff {username password auth : String} :
    Authorization.basic username password = "Basic " ++ auth ↔
      combine (username.toList ++ ':' :: password.toList) = auth := by
  rw [basic_eq_combine, ← String.toList_inj, String.toList_append, String.toList_append,
    List.append_right_inj, String.toList_inj]

theorem isAscii_combine (text : List Char) : isAscii (combine text) = true := by
  rw [isAscii, combine, String.toList_ofList, List.all_eq_true]
  intro c hc
  exact decide_eq_true (Text.Base64.toNat_lt_of_mem_encode hc)

/-- The combined form is read as the name up to the first colon and the password behind it. -/
theorem decodePair_combine {username : List Char} (hname : ':' ∉ username)
    (password : List Char) :
    decodePair (combine (username ++ ':' :: password)) =
      some (String.ofList username, String.ofList password) := by
  have hcut : Text.cut? (· = ':') (username ++ ':' :: password) = some (username, password) :=
    Text.cut?_append (Text.decide_eq_false_of_not_mem hname) (decide_eq_true rfl) password
  simp only [decodePair, combine, String.toList_ofList, Text.Base64.decodeStrict_encode,
    Text.Utf8.decode_encode, hcut, Option.map_some]

/-- Of all credentials only the combined form is given. -/
structure IsCombined (b : BasicAuth) : Prop where
  noUsername : b.username = ""
  noPassword : b.password = ""
  noToken : b.identityToken = ""
  noFile : b.passwordFile = ""

theorem IsCombined.identity_eq {b : BasicAuth} (h : b.IsCombined) {username password : List Char}
    (hname : ':' ∉ username) (hauth : b.auth = combine (username ++ ':' :: password)) (fs : Files) :
    b.identity fs =
      .ok (.password (String.ofList username) (String.ofList password) b.serverAddress) := by
  have hascii : isAscii b.auth = true := by rw [hauth, isAscii_combine]
  refine identity_of_combined hascii h.noToken h.noFile h.noUsername h.noPassword ?_
  rw [hauth, decodePair_combine hname]
  rfl

/-- What is presented tells who presents it. -/
theorem eq_of_basic_eq {username password username' password' : String}
    (hname : ':' ∉ username.toList) (hname' : ':' ∉ username'.toList)
    (h : Authorization.basic username password = Authorization.basic username' password') :
    username = username' ∧ password = password' := by
  have hsame := basic_eq_iff.mp (h.trans (basic_eq_combine username' password'))
  have hread := decodePair_combine hname password.toList
  rw [hsame, decodePair_combine hname'] at hread
  simpa [eq_comm] using hread

/-- **Writing the combined form and reading it undo each other.** -/
theorem combined_undone (fs : Files) :
    (∀ (b : BasicAuth) (username password : String), b.IsCombined → ':' ∉ username.toList →
      Authorization.basic username password = "Basic " ++ b.auth →
      b.identity fs = .ok (.password username password b.serverAddress)) ∧
    (∀ (b : BasicAuth) (text : List Char), b.IsCombined → ':' ∈ text → b.auth = combine text →
      ∃ username password, b.identity fs = .ok (.password username password b.serverAddress) ∧
        Authorization.basic username password = "Basic " ++ b.auth) ∧
    ∀ username password username' password' : String, ':' ∉ username.toList →
      ':' ∉ username'.toList →
      Authorization.basic username password = Authorization.basic username' password' →
      username = username' ∧ password = password' := by
  refine ⟨?_, ?_, fun _ _ _ _ => eq_of_basic_eq⟩
  · intro b username password hb hname hbasic
    simpa using hb.identity_eq hname (basic_eq_iff.mp hbasic).symm fs
  · intro b text hb hcolon hauth
    obtain ⟨username, password, rfl, hname⟩ := List.eq_append_cons_of_mem hcolon
    refine ⟨String.ofList username, String.ofList password, hb.identity_eq hname hauth fs, ?_⟩
    rw [basic_eq_iff, String.toList_ofList, String.toList_ofList, hauth]

/-- The password holds colons, and neither it nor the name is in ASCII. -/
theorem combined_undone_many_colons :
    let b : BasicAuth := { BasicAuth.empty with auth := "w7w6cMOkOnNzOg==" }
    let fs : Files := ⟨fun _ => .missing⟩
    b.IsCombined ∧ Authorization.basic "ü" "pä:ss:" = "Basic " ++ b.auth ∧
      b.auth = combine "ü:pä:ss:".toList ∧ b.identity fs = .ok (.password "ü" "pä:ss:" "") ∧
      ∃ username password, b.identity fs = .ok (.password username password "") ∧
        Authorization.basic username password = "Basic " ++ b.auth := by
  intro b fs
  have hb : b.IsCombined := ⟨rfl, rfl, rfl, rfl⟩
  have hbasic : Authorization.basic "ü" "pä:ss:" = "Basic " ++ b.auth := by decide +kernel
  have hauth : b.auth = combine "ü:pä:ss:".toList := by decide +kernel
  obtain ⟨hread, hwritten, -⟩ := combined_undone fs
  exact ⟨hb, hbasic, hauth, hread b "ü" "pä:ss:" hb (by decide) hbasic,
    hwritten b "ü:pä:ss:".toList hb (by decide) hauth⟩

end BasicAuth
end RegistryAuth
