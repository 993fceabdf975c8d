import RegistryAuth.Proofs.Credential.Resolution
import RegistryAuth.Proofs.Files.Reading

/-!
# Which credentials count

Credentials can come from a helper, a token, a password file, a name with a password, and
both of these in one text.  `resolveIdentity_precedence` says which of them becomes the
identity, in three parts.

* A password file that is named but refused fails the whole, whatever else there is.
* A helper that is named settles the identity alone: of the static credentials nothing is
  left in it, nor do they stand in for a helper that fails.
* Without a helper, `BasicAuth.Gives` is the order among the static credentials.

That static credentials can be read is not the same as that they are used: a password file is
opened even where a token or a helper takes its place.  So the first part stands apart from
the order in the third.
-/

namespace RegistryAuth

namespace BasicAuth

variable {b : BasicAuth} {fs : Files} {i : Identity}

/-- What is written can be read as text: the combined form is in ASCII, and so far as a
password file is named, its path can be written and what it holds is UTF-8. -/
structure IsLegible (b : BasicAuth) (fs : Files) : Prop where
  auth : isAscii b.auth = true
  passwordFile : b.passwordFile ≠ "" → ¬fs.HoldsNoText b.passwordFile

/-- A password file is named, and the operating system refuses it. -/
def IsRefused (b : BasicAuth) (fs : Files) (e : SystemError) : Prop :=
  b.passwordFile ≠ "" ∧ fs.openAt b.passwordFile (some b.passwordFile) = .error e

/-- The order among static credentials: a token before all others, then a password file with
the name beside it, then a name or a password as they are given, and then the combined form.
What cannot be decoded of that counts for nothing. -/
inductive Gives (b : BasicAuth) (fs : Files) : Identity → Prop where
  | token (given : b.identityToken ≠ "") : Gives b fs (.token b.identityToken b.serverAddress)
  | passwordFile {content : List Char} (noToken : b.identityToken = "")
      (named : b.passwordFile ≠ "") (read : fs.readExact b.passwordFile = .ok content) :
      Gives b fs (.password b.username (String.ofList content) b.serverAddress)
  | pair (noToken : b.identityToken = "") (noFile : b.passwordFile = "")
      (given : b.username ≠ "" ∨ b.password ≠ "") :
      Gives b fs (.password b.username b.password b.serverAddress)
  | combined {username password : String} (noToken : b.identityToken = "")
      (noFile : b.passwordFile = "") (noUsername : b.username = "") (noPassword : b.password = "")
      (decoded : decodePair b.auth = some (username, password)) :
      Gives b fs (.password username password b.serverAddress)
  | nothing (noToken : b.identityToken = "") (noFile : b.passwordFile = "")
      (noUsername : b.username = "") (noPassword : b.password = "")
      (undecoded : decodePair b.auth = none) :
      Gives b fs (.password "" "" b.serverAddress)

theorem identity_of_pair {username password : String} (h : b.pair fs = .ok (username, password)) :
    b.identity fs = .ok (if b.identityToken = "" then .password username password b.serverAddress
      else .token b.identityToken b.serverAddress) := by
  simp only [identity, h, Except.map, String.isEmpty_iff]

theorem pair_of_file {content : List Char} (hnamed : b.passwordFile ≠ "")
    (hread : fs.readExact b.passwordFile = .ok content) :
    b.pair fs = .ok (b.username, String.ofList content) := by
  have hempty : b.passwordFile.isEmpty = false := by simpa using hnamed
  simp only [pair, hempty, hread, Bool.not_false, if_true]

theorem pair_of_given (hfile : b.passwordFile = "") (hgiven : b.username ≠ "" ∨ b.password ≠ "") :
    b.pair fs = .ok (b.username, b.password) := by
  have hempty : (b.username.isEmpty && b.password.isEmpty) = false := by
    rcases hgiven with h | h <;> simp [h]
  simp [pair, hfile, hempty]

/-- The combined form may be missing here: nothing is decoded from an empty text. -/
theorem pair_of_combined (hascii : isAscii b.auth = true) (hfile : b.passwordFile = "")
    (husername : b.username = "") (hpassword : b.password = "") :
    b.pair fs = .ok ((decodePair b.auth).getD ("", "")) := by
  have hnothing : decodePair "" = none := by
    simp [decodePair, Text.Base64.decodeStrict, Text.Base64.readFrom, Text.Utf8.decode,
      Text.Utf8.decodeFrom, Text.cut?]
  by_cases hauth : b.auth = ""
  · simp [pair, hfile, husername, hpassword, hauth, hnothing]
  · simp [pair, hfile, husername, hpassword, hauth, hascii]

theorem identity_of_combined {username password : String} (hascii : isAscii b.auth = true)
    (htoken : b.identityToken = "") (hfile : b.passwordFile = "") (husername : b.username = "")
    (hpassword : b.password = "")
    (hdecoded : (decodePair b.auth).getD ("", "") = (username, password)) :
    b.identity fs = .ok (.password username password b.serverAddress) := by
  have hpair : b.pair fs = .ok (username, password) := by
    rw [pair_of_combined hascii hfile husername hpassword, hdecoded]
  rw [identity_of_pair hpair, if_pos htoken]

/-- A password file that is named and refused fails the reading, whatever else is given. -/
theorem identity_of_isRefused {e : SystemError} (hlegible : b.IsLegible fs)
    (h : b.IsRefused fs e) : b.identity fs = .error (.passwordFile e) := by
  obtain ⟨hnamed, hopen⟩ := h
  have hnul : Files.hasNul b.passwordFile = false := by
    by_contra hnul
    exact hlegible.passwordFile hnamed (.inl (by simpa using hnul))
  have hempty : b.passwordFile.isEmpty = false := by simpa using hnamed
  have hread := Files.readExact_of_openAt_eq_error hnul hopen
  simp only [identity, pair, hempty, hread, Bool.not_false, if_true, Except.map]

/-- Where a name and a password can come from: a password file that is read, what is given, or
neither. -/
theorem pair_cases (hlegible : b.IsLegible fs) (hopen : ∀ e, ¬b.IsRefused fs e) :
    (b.passwordFile ≠ "" ∧ ∃ content, fs.readExact b.passwordFile = .ok content) ∨
      (b.passwordFile = "" ∧ (b.username ≠ "" ∨ b.password ≠ "")) ∨
      (b.passwordFile = "" ∧ b.username = "" ∧ b.password = "") := by
  by_cases hfile : b.passwordFile = ""
  · by_cases hgiven : b.username ≠ "" ∨ b.password ≠ ""
    · exact .inr (.inl ⟨hfile, hgiven⟩)
    · obtain ⟨husername, hpassword⟩ := not_or.mp hgiven
      exact .inr (.inr ⟨hfile, not_not.mp husername, not_not.mp hpassword⟩)
  · have hread := Files.exists_readExact (hlegible.passwordFile hfile)
      fun e he => hopen e ⟨hfile, he⟩
    exact .inl ⟨hfile, hread⟩

theorem exists_pair (hlegible : b.IsLegible fs) (hopen : ∀ e, ¬b.IsRefused fs e) :
    ∃ username password, b.pair fs = .ok (username, password) := by
  rcases pair_cases hlegible hopen with
    ⟨hnamed, content, hread⟩ | ⟨hfile, hgiven⟩ | ⟨hfile, husername, hpassword⟩
  · exact ⟨_, _, pair_of_file hnamed hread⟩
  · exact ⟨_, _, pair_of_given hfile hgiven⟩
  · exact ⟨_, _, pair_of_combined hlegible.auth hfile husername hpassword⟩

theorem identity_of_gives (hlegible : b.IsLegible fs) (hopen : ∀ e, ¬b.IsRefused fs e)
    (h : b.Gives fs i) : b.identity fs = .ok i := by
  cases h with
  | token hgiven =>
    -- the name and the password are read all the same, and then passed over
    obtain ⟨username, password, hpair⟩ := exists_pair hlegible hopen
    rw [identity_of_pair hpair, if_neg hgiven]
  | passwordFile htoken hnamed hread =>
    rw [identity_of_pair (pair_of_file hnamed hread), if_pos htoken]
  | pair htoken hfile hgiven =>
    rw [identity_of_pair (pair_of_given hfile hgiven), if_pos htoken]
  | combined htoken hfile husername hpassword hdecoded =>
    exact identity_of_combined hlegible.auth htoken hfile husername hpassword
      (by rw [hdecoded]; rfl)
  | nothing htoken hfile husername hpassword hdecoded =>
    exact identity_of_combined hlegible.auth htoken hfile husername hpassword
      (by rw [hdecoded]; rfl)

/-- There is always one that counts. -/
theorem exists_gives (hlegible : b.IsLegible fs) (hopen : ∀ e, ¬b.IsRefused fs e) :
    ∃ i, b.Gives fs i := by
  by_cases htoken : b.identityToken = ""
  · rcases pair_cases hlegible hopen with
      ⟨hnamed, content, hread⟩ | ⟨hfile, hgiven⟩ | ⟨hfile, husername, hpassword⟩
    · exact ⟨_, .passwordFile htoken hnamed hread⟩
    · exact ⟨_, .pair htoken hfile hgiven⟩
    · cases hdecoded : decodePair b.auth with
      | some pair => exact ⟨_, .combined htoken hfile husername hpassword hdecoded⟩
      | none => exact ⟨_, .nothing htoken hfile husername hpassword hdecoded⟩
  · exact ⟨_, .token htoken⟩

/-- The order leaves no choice. -/
theorem Gives.unique {j : Identity} (hlegible : b.IsLegible fs) (hopen : ∀ e, ¬b.IsRefused fs e)
    (hi : b.Gives fs i) (hj : b.Gives fs j) : i = j :=
  Except.ok.inj
    ((identity_of_gives hlegible hopen hi).symm.trans (identity_of_gives hlegible hopen hj))

end BasicAuth

/-! ## Helpers -/

namespace HelperCredentials

theorem serverAddress_identity (c : HelperCredentials) (server : String) :
    (c.identity server).serverAddress = server := by
  rw [identity]
  split <;> rfl

theorem identity_eq_token_iff {c : HelperCredentials} {server : String} :
    c.identity server = .token c.secret server ↔ c.username = "<token>" := by
  by_cases h : c.username = Helper.tokenName
  · exact iff_of_true (by rw [identity, if_pos h]) h
  · exact iff_of_false (by rw [identity, if_neg h]; exact Identity.noConfusion) h

theorem identity_eq_password_iff {c : HelperCredentials} {server : String} :
    c.identity server = .password c.username c.secret server ↔ c.username ≠ "<token>" := by
  by_cases h : c.username = Helper.tokenName
  · exact iff_of_false (by rw [identity, if_pos h]; exact Identity.noConfusion) (not_not.mpr h)
  · exact iff_of_true (by rw [identity, if_neg h]) h

end HelperCredentials

variable {σ : Type} {source : HelperSource σ} {s : σ} {fs : Files} {basic : Option BasicAuth}
  {helper server : String}

/-- Of static credentials that can be read, nothing is left where a helper is named. -/
theorem resolveIdentity_of_helper (hhelper : helper ≠ "")
    (hstatic : ∃ i, staticIdentity basic fs = .ok i) :
    resolveIdentity source fs basic helper server s =
      (match (source.get helper server (source.make helper s)).1 with
        | .error e => .error (.helper helper e)
        | .ok c => .ok (c.identity server),
        (source.get helper server (source.make helper s)).2) := by
  obtain ⟨i, hi⟩ := hstatic
  have hempty : helper.isEmpty = false := by simpa using hhelper
  simp only [resolveIdentity, hi, hempty, Bool.false_eq_true, if_false]
  cases (source.get helper server (source.make helper s)).1 <;> rfl

theorem resolveIdentity_of_no_helper {i : Identity} (hi : staticIdentity basic fs = .ok i) :
    resolveIdentity source fs basic "" server s = (.ok i, s) := by
  simp [resolveIdentity, hi]

theorem resolveIdentity_of_static_error {e : ResolutionError}
    (he : staticIdentity basic fs = .error e) :
    resolveIdentity source fs basic helper server s = (.error e, s) := by
  simp only [resolveIdentity, he]

/-! ## The order of all credentials -/

theorem staticIdentity_of_isRefused {b : BasicAuth} {e : SystemError}
    (hlegible : b.IsLegible fs) (h : b.IsRefused fs e) :
    staticIdentity (some b) fs = .error (.static (.passwordFile e)) := by
  rw [staticIdentity, BasicAuth.identity_of_isRefused hlegible h]
  rfl

/-- Static credentials that are legible and not refused are read, and give the first that
there is; none are nobody's. -/
theorem exists_staticIdentity (hlegible : ∀ b ∈ basic, b.IsLegible fs)
    (hopen : ∀ b ∈ basic, ∀ e, ¬b.IsRefused fs e) :
    ∃ i, staticIdentity basic fs = .ok i ∧
      (basic = none ∧ i = .anonymous ∨
        ∃ b, basic = some b ∧ b.Gives fs i ∧ ∀ j, b.Gives fs j → j = i) := by
  cases basic with
  | none => exact ⟨.anonymous, rfl, .inl ⟨rfl, rfl⟩⟩
  | some b =>
    obtain ⟨i, hi⟩ := BasicAuth.exists_gives (hlegible b rfl) (hopen b rfl)
    have hidentity := BasicAuth.identity_of_gives (hlegible b rfl) (hopen b rfl) hi
    refine ⟨i, by rw [staticIdentity, hidentity]; rfl, .inr ⟨b, rfl, hi, fun j hj => ?_⟩⟩
    exact BasicAuth.Gives.unique (hlegible b rfl) (hopen b rfl) hj hi

/-- **Which credentials become the identity.**  Suppose that the static credentials, if there
are any, are legible.

* If their password file is refused, that is the failure, put down to the step `basic auth`,
  and no helper is made.  A token beside it does not count.
* Else, if a helper is named, it is made and asked once, for the server.  What comes of it is
  the same for any other static credentials that can be read, and for none.  What it hands out
  is an identity for the server, a token exactly where the name says so; and its failure is the
  failure of the whole, under its own step.
* Else no helper is made, and the identity is the one that comes first in the order of the
  static credentials, or nobody's. -/
theorem resolveIdentity_precedence (source : HelperSource σ) (fs : Files)
    (basic : Option BasicAuth) (helper server : String) (s : σ)
    (hlegible : ∀ b ∈ basic, b.IsLegible fs) :
    let run := resolveIdentity source fs basic helper server s
    let asked := (resolveIdentity source.watched fs basic helper server ([], s)).2.1
    let answer := source.get helper server (source.make helper s)
    (∀ b ∈ basic, ∀ e, b.IsRefused fs e → asked = [] ∧
      ∃ f, run = (.error f, s) ∧ f = .static (.passwordFile e) ∧
        f.step? = some "basic auth") ∧
    ((∀ b ∈ basic, ∀ e, ¬b.IsRefused fs e) → helper ≠ "" →
      asked = [.make helper, .get helper server] ∧
      (∀ basic' fs', (∃ i, staticIdentity basic' fs' = .ok i) →
        resolveIdentity source fs' basic' helper server s = run) ∧
      (∀ c, answer.1 = .ok c → ∃ i, run = (.ok i, answer.2) ∧ i.serverAddress = server ∧
        (i = .token c.secret server ↔ c.username = "<token>") ∧
        (i = .password c.username c.secret server ↔ c.username ≠ "<token>")) ∧
      (∀ f, answer.1 = .error f → run = (.error (.helper helper f), answer.2)) ∧
      (∀ e, (ResolutionError.helper helper (.helper e)).step? =
        some ("credential helper " ++ helper))) ∧
    ((∀ b ∈ basic, ∀ e, ¬b.IsRefused fs e) → helper = "" → asked = [] ∧
      ∃ i, run = (.ok i, s) ∧
        (basic = none ∧ i = .anonymous ∨
          ∃ b, basic = some b ∧ b.Gives fs i ∧ ∀ j, b.Gives fs j → j = i)) := by
  intro run asked answer
  have hasked : asked = helperCalls fs basic helper server := by
    simp only [asked, resolveIdentity_watched, List.nil_append]
  refine ⟨?refused, ?helper, ?static⟩
  case refused =>
    rintro b hb e he
    obtain rfl : basic = some b := hb
    have hstatic := staticIdentity_of_isRefused (hlegible b rfl) he
    exact ⟨by rw [hasked, helperCalls, hstatic], _, resolveIdentity_of_static_error hstatic, rfl,
      rfl⟩
  case helper =>
    intro hopen hhelper
    obtain ⟨i, hi, -⟩ := exists_staticIdentity hlegible hopen
    have hempty : helper.isEmpty = false := by simpa using hhelper
    have hrun : run = _ := resolveIdentity_of_helper hhelper ⟨i, hi⟩
    refine ⟨by simp [hasked, helperCalls, hi, hempty], fun basic' fs' hstatic => ?_,
      fun c hc => ⟨c.identity server, ?_, c.serverAddress_identity server,
        HelperCredentials.identity_eq_token_iff, HelperCredentials.identity_eq_password_iff⟩,
      fun f hf => ?_, fun _ => rfl⟩
    · rw [hrun, resolveIdentity_of_helper hhelper hstatic]
    · simp only [hrun, answer, hc]
    · simp only [hrun, answer, hf]
  case static =>
    rintro hopen rfl
    obtain ⟨i, hi, hgives⟩ := exists_staticIdentity hlegible hopen
    exact ⟨by simp [hasked, helperCalls, hi], i, resolveIdentity_of_no_helper hi, hgives⟩

/-- A token, and a password file that is not there: the file is missed, and the helper is left
alone. -/
theorem resolveIdentity_precedence_of_missing_file :
    let b : BasicAuth := { BasicAuth.empty with identityToken := "t", passwordFile := "pw" }
    let fs : Files := ⟨fun _ => .missing⟩
    let source : HelperSource Unit :=
      ⟨fun _ s => s, fun _ _ s => (.ok ⟨Helper.tokenName, "t", ""⟩, s)⟩
    b.IsLegible fs ∧ b.IsRefused fs (.missing (some "pw")) ∧
      (resolveIdentity source.watched fs (some b) "pass" "registry.example.com"
        ([], ())).2.1 = [] ∧
      (resolveIdentity source fs (some b) "pass" "registry.example.com" ()).1 =
        .error (.static (.passwordFile (.missing (some "pw")))) := by
  intro b fs source
  have hnul : Files.hasNul b.passwordFile = false := by decide
  have hlegible : b.IsLegible fs := by
    refine ⟨rfl, fun _ hnoText => ?_⟩
    rcases hnoText with h | ⟨_, _, hfile, -⟩
    · exact Bool.false_ne_true (hnul.symm.trans h)
    · cases hfile
  have hrefused : b.IsRefused fs (.missing (some "pw")) := ⟨by decide, rfl⟩
  obtain ⟨hfile, -⟩ := resolveIdentity_precedence source fs (some b) "pass"
    "registry.example.com" () (by rintro _ ⟨⟩; exact hlegible)
  obtain ⟨hasked, _, hrun, rfl, -⟩ := hfile b rfl _ hrefused
  exact ⟨hlegible, hrefused, hasked, by rw [hrun]⟩

end RegistryAuth
