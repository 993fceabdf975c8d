import RegistryAuth.Command.Run
import RegistryAuth.Proofs.Composition.Choice

/-!
# Which failures of a choice are shown

A failure to choose how to send is shown to the user, or it breaks the command off.  Those
that are shown have names of their own: certificates that cannot be used, a password file that
the operating system does not give, a helper that fails (`CompositionError.IsNamed`).  The
others are faults of what is handed on: a path that cannot be written, a passphrase that is too
long, a time limit that cannot be kept, a file or the output of a helper that is no text,
combined credentials that are not in ASCII, and numbers that cannot be read.
`SendOption.BreaksOff` says, by what is configured, by what stands in the files and by how the
library and the helper answer, which of them is met, and `SendOption.compose_isNamed_iff` that
these are all.
-/

namespace RegistryAuth

/-! ## Certificates -/

namespace TlsConfig

variable {cfg : TlsConfig} {course : TlsCourse} {lib : TlsLibrary} {fs : Files}

/-- The making of a context comes to a path that cannot be written, to a passphrase that is no
text, or to one that is too long for its key.  What is called before has been accepted. -/
inductive BreaksOff (cfg : TlsConfig) (course : TlsCourse) (fs : Files) : Prop where
  | authority {front back : List String} {path : String} {f : TlsFailure}
      (paths : authorityPaths cfg.caPath = front ++ path :: back)
      (accepted : course.Accepts (.createContext :: front.map (authorityCall fs)))
      (refused : course (.createContext :: front.map (authorityCall fs)) (authorityCall fs path) =
        some f)
      (fault : f.isRefusal = false)
  | passphrase (accepted : course.Accepts (cfg.openingCalls fs)) (hasCert : cfg.certPath ≠ "")
      (named : cfg.passphrasePath ≠ "") (noText : fs.HoldsNoText cfg.passphrasePath)
  | clientCert {passphrase : Option String} {f : TlsFailure}
      (accepted : course.Accepts (cfg.openingCalls fs)) (hasCert : cfg.certPath ≠ "")
      (read : readPassphrase fs cfg.passphrasePath = .ok passphrase)
      (refused : course (cfg.openingCalls fs) (cfg.chainCall passphrase) = some f)
      (fault : f.isRefusal = false)

/-- Of what a call fails with, just the refusals are put in words. -/
theorem isReported_reported {words : TlsFailure → TlsError} (h : ∀ f, (words f).isReported = true)
    (f : TlsFailure) : (reported words f).isReported = f.isRefusal := by
  cases f with
  | system | library => exact h _
  | nulInPath | longPassphrase => rfl

theorem readPassphrase_breaksOff {path : String} :
    (∃ e, readPassphrase fs path = .error e ∧ e.isReported = false) ↔
      path ≠ "" ∧ fs.HoldsNoText path := by
  rw [Files.holdsNoText_iff]
  by_cases hpath : path = ""
  · simp [readPassphrase, hpath]
  · simp only [readPassphrase, Files.readLines]
    rcases fs.readExact path with (e | - | e) | cs <;>
      simp [Except.map, hpath, TlsError.isReported]

theorem loadClient_breaksOff :
    (∃ e, (cfg.loadClient lib fs).2 = some e ∧ e.isReported = false) ↔
      cfg.certPath ≠ "" ∧ (cfg.passphrasePath ≠ "" ∧ fs.HoldsNoText cfg.passphrasePath ∨
        ∃ passphrase f, readPassphrase fs cfg.passphrasePath = .ok passphrase ∧
          lib (cfg.chainCall passphrase) = some f ∧ f.isRefusal = false) := by
  rw [← readPassphrase_breaksOff]
  by_cases hcert : cfg.certPath = ""
  · rw [loadClient_eq_of_no_cert hcert]
    by_cases hkey : cfg.keyPath = "" <;> simp [hcert, hkey, TlsError.isReported]
  · rw [loadClient_eq_of_cert hcert]
    cases readPassphrase fs cfg.passphrasePath with
    | error e => simp [hcert]
    | ok passphrase =>
      have hreported (f : TlsFailure) :
          (reported (.clientCert cfg.certPath) f).isReported = f.isRefusal :=
        isReported_reported (fun _ => rfl) f
      simp [hcert, hreported]

/-- Of the failures to make a context, those are not shown that `BreaksOff` lists. -/
theorem buildAlong_breaksOff :
    (∃ e, (cfg.buildAlong course fs).result = .error e ∧ e.isReported = false) ↔
      cfg.disabled = false ∧ cfg.BreaksOff course fs := by
  constructor
  · rintro ⟨e, he, hreported⟩
    cases hdisabled : cfg.disabled with
    | true =>
      rw [buildAlong_of_disabled hdisabled] at he
      cases he
    | false =>
      refine ⟨rfl, ?_⟩
      have hmade : Made cfg course fs (cfg.buildAlong course fs) := made_buildAlong hdisabled
      generalize cfg.buildAlong course fs = run at hmade he
      cases hmade with
      | @authority front back path f hpaths accepted refused =>
        obtain rfl := Except.error.inj he
        rw [isReported_reported fun _ => rfl] at hreported
        exact .authority hpaths accepted refused hreported
      | client accepted failure =>
        obtain rfl := Except.error.inj he
        obtain ⟨hcert, ⟨hnamed, hnoText⟩ | ⟨passphrase, f, hread, hrefused, hfault⟩⟩ :=
          loadClient_breaksOff.mp ⟨_, failure, hreported⟩
        · exact .passphrase accepted hcert hnamed hnoText
        · exact .clientCert accepted hcert hread hrefused hfault
      | complete => cases he
  · rintro ⟨henabled, h⟩
    have hclient (haccepted : course.Accepts (cfg.openingCalls fs))
        (h : ∃ e, (cfg.loadClient (course (cfg.openingCalls fs)) fs).2 = some e ∧
          e.isReported = false) :
        ∃ e, (cfg.buildAlong course fs).result = .error e ∧ e.isReported = false := by
      obtain ⟨e, he, hreported⟩ := h
      rw [buildAlong_of_accepts henabled haccepted, he]
      exact ⟨e, rfl, hreported⟩
    cases h with
    | authority hpaths accepted refused fault =>
      rw [buildAlong_of_refused henabled hpaths accepted refused]
      exact ⟨_, rfl, by rw [isReported_reported fun _ => rfl, fault]⟩
    | passphrase accepted hcert hnamed hnoText =>
      exact hclient accepted (loadClient_breaksOff.mpr ⟨hcert, .inl ⟨hnamed, hnoText⟩⟩)
    | clientCert accepted hcert hread hrefused fault =>
      exact hclient accepted
        (loadClient_breaksOff.mpr ⟨hcert, .inr ⟨_, _, hread, hrefused, fault⟩⟩)

end TlsConfig

/-! ## Static credentials -/

namespace BasicAuth

/-- The reading of static credentials comes to a path that cannot be written, to a password
file that is no text, or to a combined form that is not in ASCII. -/
inductive BreaksOff (b : BasicAuth) (fs : Files) : Prop where
  | passwordFile (named : b.passwordFile ≠ "") (noText : fs.HoldsNoText b.passwordFile)
  | auth (unnamed : b.passwordFile = "") (noUsername : b.username = "")
      (noPassword : b.password = "") (foreign : isAscii b.auth = false)

theorem pair_of_passwordFile {b : BasicAuth} {fs : Files} (h : b.passwordFile ≠ "") :
    (∃ e, b.pair fs = .error e ∧ ∀ f, e ≠ .passwordFile f) ↔ fs.HoldsNoText b.passwordFile := by
  have hempty : b.passwordFile.isEmpty = false := by simpa using h
  simp only [Files.holdsNoText_iff, pair, hempty, Bool.not_false, if_true]
  rcases fs.readExact b.passwordFile with (e | - | e) | cs <;> simp

theorem pair_of_no_passwordFile {b : BasicAuth} {fs : Files} (h : b.passwordFile = "") :
    (∃ e, b.pair fs = .error e ∧ ∀ f, e ≠ .passwordFile f) ↔
      b.username = "" ∧ b.password = "" ∧ isAscii b.auth = false := by
  have hascii : isAscii "" = true := rfl
  by_cases husername : b.username = ""
  · by_cases hpassword : b.password = ""
    · by_cases hauth : b.auth = ""
      · simp [pair, h, husername, hpassword, hauth, hascii]
      · cases hforeign : isAscii b.auth <;>
          simp [pair, h, husername, hpassword, hauth, hforeign]
    · simp [pair, h, husername, hpassword]
  · simp [pair, h, husername]

/-- Of the failures to read static credentials, those are not put down to the operating system
that `BreaksOff` lists. -/
theorem identity_breaksOff {b : BasicAuth} {fs : Files} :
    (∃ e, b.identity fs = .error e ∧ ∀ f, e ≠ .passwordFile f) ↔ b.BreaksOff fs := by
  have hidentity (e : StaticError) : b.identity fs = .error e ↔ b.pair fs = .error e := by
    rw [identity]
    cases b.pair fs <;> simp [Except.map]
  simp only [hidentity]
  by_cases hfile : b.passwordFile = ""
  · rw [pair_of_no_passwordFile hfile]
    constructor
    · rintro ⟨husername, hpassword, hforeign⟩
      exact .auth hfile husername hpassword hforeign
    · rintro (⟨hnamed, -⟩ | ⟨-, husername, hpassword, hforeign⟩)
      · exact absurd hfile hnamed
      · exact ⟨husername, hpassword, hforeign⟩
  · rw [pair_of_passwordFile hfile]
    constructor
    · exact .passwordFile hfile
    · rintro (⟨-, hnoText⟩ | ⟨hunnamed, -, -, -⟩)
      · exact hnoText
      · exact absurd hunnamed hfile

end BasicAuth

/-! ## Helpers -/

/-- What is read of an output fails as the helper's, or for a number. -/
theorem Helper.readOutput_eq_error {program out : String} {f : HelperFailure}
    (h : readOutput program out = .error f) (hother : ∀ e, f ≠ .helper e) :
    ∃ e, f = .number e := by
  unfold readOutput at h
  split at h
  · exact ⟨_, (Except.error.inj h).symm⟩
  · exact absurd (Except.error.inj h).symm (hother _)
  · split at h
    · cases h
    · exact absurd (Except.error.inj h).symm (hother _)

theorem Helper.readOutput_eq_number {program out : String} {e : NumberError} :
    readOutput program out = .error (.number e) ↔ Json.parse out = .error (.number e) := by
  unfold readOutput
  rcases Json.parse out with (⟨fault, line, column, char⟩ | e') | v
  · simp
  · simp
  · simp only [reduceCtorEq, iff_false]
    split <;> simp

/-- A helper program has not been called, its end has not been waited for, or what it has written
is not read. -/
inductive HelperRun.BreaksOff : HelperRun → Prop
  | nulInPath : BreaksOff .nulInPath
  | limit (text : String) : BreaksOff (.limitRefused text)
  | output (e : Text.DecodeError) : BreaksOff (.garbled e)
  | number {stdout stderr : String} {e : NumberError}
      (parse : Json.parse (Text.trimString stdout) = .error (.number e)) :
      BreaksOff (.finished stdout stderr 0)

/-- Of the failures to hand credentials out, those are none of the helper's own that `BreaksOff`
lists. -/
theorem HelperRun.credentials_breaksOff {program : String} {limit : Option Seconds}
    {run : HelperRun} :
    (∃ f, run.credentials program limit = .error f ∧ ∀ e, f ≠ .helper e) ↔ run.BreaksOff := by
  constructor
  · rintro ⟨f, hf, hother⟩
    cases run with
    | nulInPath => exact .nulInPath
    | limitRefused text => exact .limit text
    | garbled e => exact .output e
    | failed | timedOut => exact absurd (Except.error.inj hf).symm (hother _)
    | finished stdout stderr status =>
      by_cases hstatus : status = 0
      · rw [credentials, if_pos hstatus] at hf
        rw [hstatus]
        obtain ⟨e, rfl⟩ := Helper.readOutput_eq_error hf hother
        exact .number (Helper.readOutput_eq_number.mp hf)
      · rw [credentials, if_neg hstatus] at hf
        exact absurd (Except.error.inj hf).symm (hother _)
  · intro h
    cases h with
    | nulInPath | limit | output => exact ⟨_, rfl, nofun⟩
    | number parse => exact ⟨_, Helper.readOutput_eq_number.mpr parse, nofun⟩

/-! ## The choice -/

/-- The failures of a choice that have names of their own, where a helper is asked. -/
inductive CompositionError.IsNamed (helper : String) : CompositionError → Prop where
  | tls {e : TlsError} (reported : e.isReported = true) : IsNamed helper (.tls e)
  | passwordFile (e : SystemError) : IsNamed helper (.credentials (.static (.passwordFile e)))
  | helper (e : HelperError) : IsNamed helper (.credentials (.helper helper (.helper e)))

theorem CompositionError.IsNamed.isReported {helper : String} {e : CompositionError}
    (h : e.IsNamed helper) : e.isReported = true := by
  cases h with
  | tls hreported => exact hreported
  | passwordFile => rfl
  | helper => rfl

namespace SendOption

variable {σ : Type} {cfg : SecurityConfig} {address repo : String} {settings : Settings}
  {course : TlsCourse} {fs : Files} {launch : Launcher σ} {limit : Option Seconds} {dir : String}
  {s : σ}

/-- The choice of a way to send comes to what cannot be handed on or read: by the certificates, by
the static credentials, by the helper, or by the port of the address. -/
inductive BreaksOff (cfg : SecurityConfig) (address : String) (course : TlsCourse) (fs : Files)
    (launch : Launcher σ) (limit : Option Seconds) (dir : String) (s : σ) : Prop where
  | certificates {part : TlsConfig} (tls : cfg.tls = some part) (enabled : part.disabled = false)
      (breaks : part.BreaksOff course fs)
  | credentials {context : Option TlsContext} {b : BasicAuth}
      (build : (buildTls cfg course fs).result = .ok context) (basic : cfg.basic = some b)
      (breaks : b.BreaksOff fs)
  | helper (asks : Asks cfg course fs)
      (breaks :
        (launch (Helper.call (Helper.program cfg.helper dir) limit address) s).1.BreaksOff)
  | address {context : Option TlsContext} {i : Identity} {e : NumberError}
      (build : (buildTls cfg course fs).result = .ok context) (used : cfg.usesBasicAuth = true)
      (identity : (resolveIdentity (.programs launch limit dir) fs cfg.basic cfg.helper address
        s).1 = .ok i)
      (parse : Address.parse address = .error e)

theorem buildTls_eq_error {e : TlsError} :
    (buildTls cfg course fs).result = .error e ↔
      ∃ part, cfg.tls = some part ∧ (part.buildAlong course fs).result = .error e := by
  rw [buildTls]
  cases cfg.tls <;> simp

/-- A failure has one of the names, or the choice has been broken off. -/
theorem isNamed_or_breaksOff {e : CompositionError} {s' : σ}
    (h : Composed cfg address repo settings course fs (.programs launch limit dir) s (.error e)
      s') :
    e.IsNamed cfg.helper ∨
      e.isReported = false ∧ BreaksOff cfg address course fs launch limit dir s := by
  cases h with
  | @misbuilt e hbuild =>
    cases hreported : e.isReported with
    | true => exact .inl (.tls hreported)
    | false =>
      obtain ⟨part, htls, hpart⟩ := buildTls_eq_error.mp hbuild
      obtain ⟨henabled, hbreaks⟩ := TlsConfig.buildAlong_breaksOff.mp ⟨e, hpart, hreported⟩
      exact .inr ⟨hreported, .certificates htls henabled hbreaks⟩
  | @unresolved context e hbuild hused hidentity =>
    -- each of the two steps has one failure with a name
    rcases resolveIdentity_eq_error.mp hidentity with hstatic | ⟨hstatic, hhelper, f, hget, rfl⟩
    · obtain ⟨b, f, hbasic, hb, rfl⟩ := staticIdentity_eq_error.mp hstatic
      cases f with
      | passwordFile e => exact .inl (.passwordFile e)
      | nulInPath | content _ | notAscii =>
        exact .inr ⟨rfl, .credentials hbuild hbasic
          (BasicAuth.identity_breaksOff.mp ⟨_, hb, fun _ => nofun⟩)⟩
    · cases f with
      | helper e => exact .inl (.helper e)
      | number | output | nulInPath | limit =>
        exact .inr ⟨rfl, .helper ⟨⟨context, hbuild⟩, hhelper, hstatic⟩
          (HelperRun.credentials_breaksOff.mp ⟨_, hget, fun _ => nofun⟩)⟩
  | misaddressed hbuild hused hidentity hparse =>
    exact .inr ⟨rfl, .address hbuild hused hidentity hparse⟩

/-- Where the choice is broken off, the failure is not shown. -/
theorem exists_unreported_of_breaksOff (h : BreaksOff cfg address course fs launch limit dir s) :
    ∃ e, (compose cfg address repo settings course fs (.programs launch limit dir) s).result =
      .error e ∧ e.isReported = false := by
  cases h with
  | certificates htls henabled hbreaks =>
    obtain ⟨e, hpart, hreported⟩ := TlsConfig.buildAlong_breaksOff.mpr ⟨henabled, hbreaks⟩
    refine ⟨.tls e, ?_, hreported⟩
    rw [compose_of_build_error (buildTls_eq_error.mpr ⟨_, htls, hpart⟩)]
  | credentials hbuild hbasic hbreaks =>
    obtain ⟨f, hb, hf⟩ := BasicAuth.identity_breaksOff.mpr hbreaks
    have hstatic := staticIdentity_eq_error.mpr ⟨_, f, hbasic, hb, rfl⟩
    have hused : cfg.usesBasicAuth = true :=
      SecurityConfig.usesBasicAuth_eq_true.mpr (.inl (by rw [hbasic]; rfl))
    refine ⟨.credentials (.static f), ?_, ?_⟩
    · rw [compose_of_used hbuild hused, authenticate_eq,
        resolveIdentity_eq_error.mpr (.inl hstatic)]
    · cases f with
      | passwordFile e => exact absurd rfl (hf e)
      | nulInPath | content _ | notAscii => rfl
  | helper hasks hbreaks =>
    obtain ⟨f, hf, hother⟩ := HelperRun.credentials_breaksOff.mpr hbreaks
    refine ⟨_, compose_of_helper_error hasks hf, ?_⟩
    cases f with
    | helper e => exact absurd rfl (hother e)
    | number | output | nulInPath | limit => rfl
  | @address _ _ e hbuild hused hidentity hparse =>
    refine ⟨.address e, ?_, rfl⟩
    rw [compose_of_used hbuild hused, authenticate_eq, hidentity]
    simp only [hparse]

/-- A choice gives a way to send or a failure with a name, unless it is broken off.  A failure
with a name is reported, and the command ends with the code of a failure; a choice that is broken
off breaks off the command. -/
theorem compose_isNamed_iff (cfg : SecurityConfig) (address repo : String) (settings : Settings)
    (course : TlsCourse) (fs : Files) (launch : Launcher σ) (limit : Option Seconds) (dir : String)
    (s : σ) (title : String) :
    let result :=
      (compose cfg address repo settings course fs (.programs launch limit dir) s).result
    let shown := Command.resolutionReport title result
    ((∃ o, result = .ok o) ∨ (∃ e, result = .error e ∧ e.IsNamed cfg.helper) ↔
      ¬BreaksOff cfg address course fs launch limit dir s) ∧
    (∀ e, result = .error e → e.IsNamed cfg.helper →
      ∃ r, shown = .ok (.report r) ∧ r.exitCode = 1) ∧
    (BreaksOff cfg address course fs launch limit dir s →
      ∃ e, shown = .error (.composition e)) := by
  intro result shown
  have hcomposed : Composed cfg address repo settings course fs (.programs launch limit dir) s
    result _ := composed_compose
  have hbreaks : BreaksOff cfg address course fs launch limit dir s →
      ∃ e, result = .error e ∧ e.isReported = false := exists_unreported_of_breaksOff
  refine ⟨⟨?_, fun hnot => ?_⟩, fun e he hnamed => ?_, fun h => ?_⟩
  · intro h hbreaksOff
    obtain ⟨e, he, hreported⟩ := hbreaks hbreaksOff
    rcases h with ⟨o, ho⟩ | ⟨e', he', hnamed⟩
    · exact absurd (ho.symm.trans he) nofun
    · rw [Except.error.inj (he'.symm.trans he)] at hnamed
      exact absurd (hreported.symm.trans hnamed.isReported) Bool.false_ne_true
  · cases hresult : result with
    | ok o => exact .inl ⟨o, rfl⟩
    | error e =>
      rcases isNamed_or_breaksOff (hresult ▸ hcomposed) with hnamed | ⟨-, hbreaksOff⟩
      · exact .inr ⟨e, rfl, hnamed⟩
      · exact absurd hbreaksOff hnot
  · have hshown : shown = .ok (.report ((Report.titled title).fail "resolve" e.message)) := by
      simp only [shown, Command.resolutionReport, he, hnamed.isReported, if_true]
    exact ⟨_, hshown, rfl⟩
  · obtain ⟨e, he, hreported⟩ := hbreaks h
    exact ⟨e, by simp only [shown, Command.resolutionReport, he, hreported, Bool.false_eq_true,
      if_false]⟩

/-- **A password file that is no text.**  Its one byte is not UTF-8: there is no way to send,
the failure has no name of its own, and the command is broken off. -/
theorem compose_of_garbled_password :
    let cfg : SecurityConfig := ⟨none, some { BasicAuth.empty with passwordFile := "pw" }, ""⟩
    let fs : Files := ⟨fun path => if path = "pw" then .file [0xFF] else .missing⟩
    let source : HelperSource Unit := .programs (fun _ s => (.timedOut, s)) none Helper.directory
    let run := compose cfg "registry.example.com" "lib/app" .standard (fun _ _ => none) fs source ()
    ∃ e, run.result = .error e ∧
      e = .credentials (.static (.content ⟨"utf-8", 0, [0xFF], .badStart⟩)) ∧
      ¬e.IsNamed "" ∧ e.isReported = false := by
  intro cfg fs source run
  refine ⟨_, ?_, rfl, nofun, rfl⟩
  cbv

end SendOption
end RegistryAuth
