import RegistryAuth.Credential.Resolution
import RegistryAuth.Proofs.Credential.Precedence
import RegistryAuth.Proofs.Credential.Redaction
import RegistryAuth.Proofs.Except
import RegistryAuth.Proofs.Files.Reading

/-!
# Credentials that look alike

Two sets of credentials look alike if they differ in secrets only, and in these not as far as
they are shown.  The secrets are the password, wherever it comes from, and the token: from each
of them an identity is made in the same way, or fails to be made for the same reason
(`BasicAuth.Alike.identity`, `HelperRun.Alike.credentials`, `resolveIdentity_agree`).

What a helper hands out is secret only if it hands out something.  The text that a failing helper
leaves is a message, and malformed output is shown by the place of its fault.
-/

namespace RegistryAuth

/-! ## Identities -/

/-- The identities look alike. -/
inductive Identity.Alike : Identity → Identity → Prop
  | password (user address : String) {pwd pwd' : String} (h : SameForm pwd pwd') :
      Alike (.password user pwd address) (.password user pwd' address)
  | token (address : String) {token token' : String} (h : SameForm token token') :
      Alike (.token token address) (.token token' address)

theorem Identity.Alike.refl (i : Identity) : i.Alike i := by
  cases i with
  | password user pwd address => exact .password user address (.refl pwd)
  | token token address => exact .token address (.refl token)

/-! ## Static credentials -/

/-- What is written in base64 is written in ASCII. -/
theorem Text.Base64.ascii_of_readFrom {held : Held} {pads : Nat} {filled : Bool} {cs : List Char}
    {bytes : List UInt8} (h : readFrom true held pads filled cs = some bytes) :
    ∀ c ∈ cs, c.toNat < 128 := by
  induction cs generalizing held pads filled bytes with
  | nil => simp
  | cons c cs ih =>
    by_cases hfill : c = '='
    · subst hfill
      rw [List.forall_mem_cons]
      refine ⟨by decide, ?_⟩
      rw [readFrom] at h
      split at h
      · exact ih h
      · split at h
        · split at h
          · cases h
          · rename_i hempty
            have hnil : cs = [] := by simpa using hempty
            simp [hnil]
        · exact ih h
    · rw [readFrom] at h
      · cases hdigit : digit? c with
        | none =>
          rw [hdigit] at h
          cases h
        | some d =>
          rw [hdigit] at h
          rw [List.forall_mem_cons]
          refine ⟨?_, ?_⟩
          · by_contra hhigh
            have hplus : c ≠ '+' := fun heq => hhigh (by rw [heq]; decide)
            have hslash : c ≠ '/' := fun heq => hhigh (by rw [heq]; decide)
            simp only [digit?, hplus, hslash, if_false] at hdigit
            split at hdigit
            · omega
            · split at hdigit
              · omega
              · split at hdigit
                · omega
                · cases hdigit
          · simp only at h
            split at h
            · cases h
            · obtain ⟨rest, hrest, -⟩ := Option.map_eq_some_iff.mp h
              exact ih hrest
      · exact fun heq => hfill heq

namespace BasicAuth

/-- A combined form that is readable is in ASCII and not empty. -/
theorem isAscii_of_decodePair {auth user pwd : String} (h : decodePair auth = some (user, pwd)) :
    isAscii auth = true ∧ auth.isEmpty = false := by
  rw [decodePair] at h
  split at h
  · cases h
  · rename_i bytes hbytes
    have hread := hbytes
    rw [Text.Base64.decodeStrict] at hread
    split at hread
    · cases hread
    · refine ⟨?_, ?_⟩
      · rw [isAscii, List.all_eq_true]
        intro c hc
        exact decide_eq_true (Text.Base64.ascii_of_readFrom hread c hc)
      · rw [Bool.eq_false_iff, ne_eq, String.isEmpty_iff]
        rintro rfl
        obtain rfl : [] = bytes := Option.some.inj hbytes
        simp [Text.Utf8.decode, Text.Utf8.decodeFrom, Text.cut?] at h

/-- The password files give the same, or texts that look alike. -/
def SameContent (fs fs' : Files) (path : String) : Prop :=
  Except.Agree (fun cs cs' => SameForm (String.ofList cs) (String.ofList cs'))
    (fs.readExact path) (fs'.readExact path)

/-- The static credentials look alike. -/
structure Alike (b b' : BasicAuth) : Prop where
  username : b'.username = b.username
  serverAddress : b'.serverAddress = b.serverAddress
  passwordFile : b'.passwordFile = b.passwordFile
  password : SameForm b.password b'.password
  auth : b'.auth = b.auth ∨ ∃ user pwd pwd', decodePair b.auth = some (user, pwd) ∧
    decodePair b'.auth = some (user, pwd') ∧ SameForm pwd pwd'
  identityToken : SameForm b.identityToken b'.identityToken

variable {b b' : BasicAuth} {fs fs' : Files}

/-- Pairs with the same name and passwords that look alike. -/
def PairAlike (p p' : String × String) : Prop := p.1 = p'.1 ∧ SameForm p.2 p'.2

/-- Of combined forms that look alike, the same can be read. -/
theorem Alike.auth_cases (h : Alike b b') :
    b'.auth.isEmpty = b.auth.isEmpty ∧ isAscii b'.auth = isAscii b.auth ∧
      PairAlike ((decodePair b.auth).getD ("", "")) ((decodePair b'.auth).getD ("", "")) := by
  rcases h.auth with heq | ⟨user, pwd, pwd', hpair, hpair', hform⟩
  · rw [heq]
    exact ⟨rfl, rfl, rfl, .refl _⟩
  · obtain ⟨hascii, hempty⟩ := isAscii_of_decodePair hpair
    obtain ⟨hascii', hempty'⟩ := isAscii_of_decodePair hpair'
    rw [hpair, hpair', hascii, hascii', hempty, hempty']
    exact ⟨rfl, rfl, rfl, hform⟩

theorem Alike.pair (h : Alike b b')
    (hfile : b.passwordFile ≠ "" → SameContent fs fs' b.passwordFile) :
    Except.Agree PairAlike (b.pair fs) (b'.pair fs') := by
  obtain ⟨hauthEmpty, hauthAscii, hauthPair⟩ := h.auth_cases
  rw [BasicAuth.pair, BasicAuth.pair, h.passwordFile, h.username, ← h.password.isEmpty_eq,
    hauthEmpty, hauthAscii]
  by_cases hnamed : b.passwordFile = ""
  · have hempty : b.passwordFile.isEmpty = true := by simpa using hnamed
    simp only [hempty, Bool.not_true, Bool.false_eq_true, if_false]
    split
    · split
      · exact .error _
      · exact .ok hauthPair
    · exact .ok ⟨rfl, h.password⟩
  · have hempty : b.passwordFile.isEmpty = false := by simpa using hnamed
    have hcontent := hfile hnamed
    rw [SameContent] at hcontent
    simp only [hempty, Bool.not_false, if_true]
    generalize fs.readExact b.passwordFile = read at hcontent
    generalize fs'.readExact b.passwordFile = read' at hcontent
    cases hcontent with
    | error e => cases e <;> exact .error _
    | ok hform => exact .ok ⟨rfl, hform⟩

/-- Static credentials that look alike give identities that look alike. -/
theorem Alike.identity (h : Alike b b')
    (hfile : b.passwordFile ≠ "" → SameContent fs fs' b.passwordFile) :
    Except.Agree Identity.Alike (b.identity fs) (b'.identity fs') := by
  refine (h.pair hfile).map ?_
  rintro ⟨user, pwd⟩ ⟨user', pwd'⟩ ⟨huser, hpwd⟩
  obtain rfl : user = user' := huser
  dsimp only
  rw [h.serverAddress, ← h.identityToken.isEmpty_eq]
  split
  · exact .password user _ hpwd
  · exact .token _ h.identityToken

end BasicAuth

/-! ## Helpers -/

/-- What helpers hand out looks alike. -/
structure HelperCredentials.Alike (c c' : HelperCredentials) : Prop where
  username : c'.username = c.username
  secret : SameForm c.secret c'.secret

/-- The runs are the same, or both end well and write objects that look alike: they differ in the
secret only. -/
inductive HelperRun.Alike : HelperRun → HelperRun → Prop
  | same (run : HelperRun) : Alike run run
  | secret {out out' err err' secret secret' : String} {v v' : Json}
      (hv : Json.parse (Text.trimString out) = .ok v)
      (hv' : Json.parse (Text.trimString out') = .ok v')
      (hsecret : v.get? "Secret" = some (.str secret))
      (hsecret' : v'.get? "Secret" = some (.str secret'))
      (hform : SameForm secret secret')
      (hothers : ∀ key, key ≠ "Secret" → v'.get? key = v.get? key) :
      Alike (.finished out err 0) (.finished out' err' 0)

/-- From runs that look alike, credentials come that look alike. -/
theorem HelperRun.Alike.credentials {run run' : HelperRun} (h : run.Alike run') (program : String)
    (limit : Option Seconds) :
    Except.Agree HelperCredentials.Alike (run.credentials program limit)
      (run'.credentials program limit) := by
  cases h with
  | same run => exact .of_eq (fun c => ⟨rfl, .refl _⟩) rfl
  | @secret out out' err err' secret secret' v v' hv hv' hsecret hsecret' hform hothers =>
    have huser : Helper.memberText v' "Username" = Helper.memberText v "Username" := by
      rw [Helper.memberText, Helper.memberText, hothers "Username" (by decide)]
    simp only [HelperRun.credentials, if_true, Helper.readOutput, hv, hv', hsecret, hsecret']
    exact .ok ⟨huser, hform⟩

theorem HelperCredentials.Alike.identity {c c' : HelperCredentials} (h : c.Alike c')
    (server : String) : (c.identity server).Alike (c'.identity server) := by
  rw [HelperCredentials.identity, HelperCredentials.identity, h.username]
  split
  · exact .token _ h.secret
  · exact .password _ _ h.secret

/-! ## Resolution -/

variable {σ σ' : Type} {source : HelperSource σ} {source' : HelperSource σ'} {fs fs' : Files}
  {basic basic' : Option BasicAuth} {helper server : String} {s : σ} {s' : σ'}

theorem staticIdentity_agree (hbasic : Option.Rel BasicAuth.Alike basic basic')
    (hfile : ∀ b ∈ basic, b.passwordFile ≠ "" → BasicAuth.SameContent fs fs' b.passwordFile) :
    Except.Agree Identity.Alike (staticIdentity basic fs) (staticIdentity basic' fs') := by
  cases hbasic with
  | none => exact .ok (.refl _)
  | some h => exact (h.identity (hfile _ rfl)).mapError _

/-- Credentials that look alike are resolved to identities that look alike, or fail to be for the
same reason. -/
theorem resolveIdentity_agree (hbasic : Option.Rel BasicAuth.Alike basic basic')
    (hfile : ∀ b ∈ basic, b.passwordFile ≠ "" → BasicAuth.SameContent fs fs' b.passwordFile)
    (hsource : Except.Agree HelperCredentials.Alike
      (source.get helper server (source.make helper s)).1
      (source'.get helper server (source'.make helper s')).1) :
    Except.Agree Identity.Alike (resolveIdentity source fs basic helper server s).1
      (resolveIdentity source' fs' basic' helper server s').1 := by
  have hstatic := staticIdentity_agree hbasic hfile
  generalize hi : staticIdentity basic fs = i at hstatic
  generalize hi' : staticIdentity basic' fs' = i' at hstatic
  cases hstatic with
  | error e =>
    rw [resolveIdentity_of_static_error hi, resolveIdentity_of_static_error hi']
    exact .error e
  | ok hidentity =>
    by_cases hhelper : helper = ""
    · subst hhelper
      rw [resolveIdentity_of_no_helper hi, resolveIdentity_of_no_helper hi']
      exact .ok hidentity
    · rw [resolveIdentity_of_helper hhelper ⟨_, hi⟩, resolveIdentity_of_helper hhelper ⟨_, hi'⟩]
      dsimp only
      generalize (source.get helper server (source.make helper s)).1 = got at hsource
      generalize (source'.get helper server (source'.make helper s')).1 = got' at hsource
      cases hsource with
      | error e => exact .error _
      | ok hcredentials => exact .ok (hcredentials.identity server)

end RegistryAuth
