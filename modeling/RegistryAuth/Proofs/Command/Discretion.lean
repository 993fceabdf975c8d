import RegistryAuth.Proofs.Command.Display
import RegistryAuth.Proofs.Composition.Verification
import RegistryAuth.Proofs.Credential.Discretion

/-!
# What commands disclose of secrets

Two machines are compared that differ in secrets only, and in these not as far as they may be
shown (`Machine.Alike`).  To say how a registry would be reached, or to show a configuration, then
prints the same on both and ends with the same exit code (`Command.secrets_undisclosed`).  Both
follow from the result alone, so it is results that are compared.

The certificates have to be kept apart from the secrets.  What is in a file for certificates is
asked of the library, so a file that also holds the password lets a command fail or not by what
the password is.  And a helper that fails is quoted, whatever it has written.
`Command.discloses_shared_file_and_complaint` shows both.
-/

namespace RegistryAuth

variable {σ σ' τ τ' : Type}

/-! ## Configurations -/

namespace SecurityConfig

/-- The configurations differ in secrets only, and these look alike. -/
structure Alike (cfg cfg' : SecurityConfig) : Prop where
  tls : cfg'.tls = cfg.tls
  helper : cfg'.helper = cfg.helper
  basic : Option.Rel BasicAuth.Alike cfg.basic cfg'.basic

variable {cfg cfg' : SecurityConfig}

theorem Alike.withDefaults (h : Alike cfg cfg') (env : Environment) :
    Alike (cfg.withDefaults env) (cfg'.withDefaults env) := by
  refine ⟨?_, h.helper, h.basic⟩
  rw [SecurityConfig.withDefaults, SecurityConfig.withDefaults, h.tls]

theorem Alike.usesBasicAuth_eq (h : Alike cfg cfg') : cfg'.usesBasicAuth = cfg.usesBasicAuth := by
  have hgiven {basic basic' : Option BasicAuth} (hbasic : Option.Rel BasicAuth.Alike basic basic') :
      basic'.isSome = basic.isSome := by
    cases hbasic <;> rfl
  rw [usesBasicAuth, usesBasicAuth, hgiven h.basic, h.helper]

/-- The sections for certificates differ in the passphrase file only. -/
def SameTls (t t' : TlsConfig) : Prop := t' = { t with passphrasePath := t'.passphrasePath }

/-- The credentials have the same name, the same password file, and passwords that look alike. -/
structure SameBasic (b b' : BasicAuth) : Prop where
  username : b'.username = b.username
  passwordFile : b'.passwordFile = b.passwordFile
  password : SameForm b.password b'.password

/-- The configurations differ at most in what is not shown of them. -/
structure SameShown (cfg cfg' : SecurityConfig) : Prop where
  tls : Option.Rel SameTls cfg.tls cfg'.tls
  helper : cfg'.helper = cfg.helper
  basic : Option.Rel SameBasic cfg.basic cfg'.basic

theorem SameTls.getD {part part' : Option TlsConfig} (h : Option.Rel SameTls part part') :
    SameTls (part.getD .empty) (part'.getD .empty) := by
  cases h with
  | none => rfl
  | some h => exact h

theorem SameTls.tlsFields_eq {t t' : TlsConfig} (h : SameTls t t') :
    Command.tlsFields t' = Command.tlsFields t := by
  rw [h]
  rfl

theorem SameBasic.basicFields_eq {basic basic' : Option BasicAuth}
    (h : Option.Rel SameBasic basic basic') :
    Command.basicFields basic' = Command.basicFields basic := by
  cases h with
  | none => rfl
  | some h =>
    rw [Command.basicFields, Command.basicFields, h.username, h.passwordFile,
      redact_eq_iff.mpr h.password]

theorem SameShown.tls_withDefaults (h : SameShown cfg cfg') (env : Environment) :
    Option.Rel SameTls (cfg.withDefaults env).tls (cfg'.withDefaults env).tls := by
  have hpart := SameTls.getD h.tls
  rw [SecurityConfig.withDefaults, SecurityConfig.withDefaults]
  generalize cfg.tls.getD .empty = t at hpart
  generalize cfg'.tls.getD .empty = t' at hpart
  have hca : t'.caPath = t.caPath := by rw [hpart]
  refine .some ?_
  rw [hca]
  split
  · rw [SameTls, hpart]
  · exact hpart

/-- What is shown of such configurations is the same. -/
theorem SameShown.configFields_eq (h : SameShown cfg cfg') (env : Environment) :
    Command.configFields (cfg'.withDefaults env) = Command.configFields (cfg.withDefaults env) := by
  have htls := (SameTls.getD (h.tls_withDefaults env)).tlsFields_eq
  rw [Command.configFields, Command.configFields, htls]
  simp only [SecurityConfig.withDefaults, h.helper, SameBasic.basicFields_eq h.basic]

end SecurityConfig

/-! ## Ways to send -/

namespace SendOption

/-- The ways are the same, up to identities that look alike. -/
inductive Alike : SendOption → SendOption → Prop
  | plain : Alike .plain .plain
  | tls (context : Option TlsContext) : Alike (.tls context) (.tls context)
  | authenticated (v : Verification) {t t' : AuthTransport} (h : t.identity.Alike t'.identity) :
      Alike (.authenticated v t) (.authenticated v t')

variable {cfg cfg' : SecurityConfig} {address repo : String} {settings : Settings}
  {course course' : TlsCourse} {fs fs' : Files} {source : HelperSource σ}
  {source' : HelperSource σ'}
  {s : σ} {s' : σ'}

/-- Where the certificates come to the same and the identities look alike, so do the ways that are
chosen, or the choice fails for the same reason. -/
theorem compose_agree (hcfg : cfg.Alike cfg')
    (hbuild : buildTls cfg' course' fs' = buildTls cfg course fs)
    (hidentity : Except.Agree Identity.Alike
      (resolveIdentity source fs cfg.basic cfg.helper address s).1
      (resolveIdentity source' fs' cfg'.basic cfg'.helper address s').1) :
    Except.Agree Alike (compose cfg address repo settings course fs source s).result
      (compose cfg' address repo settings course' fs' source' s').result := by
  cases hresult : (buildTls cfg course fs).result with
  | error e =>
    rw [compose_of_build_error hresult, compose_of_build_error (hbuild ▸ hresult)]
    exact .error _
  | ok context =>
    have hresult' : (buildTls cfg' course' fs').result = .ok context := hbuild ▸ hresult
    cases hused : cfg.usesBasicAuth with
    | false =>
      rw [compose_of_unused hresult hused,
        compose_of_unused hresult' (hcfg.usesBasicAuth_eq.trans hused), hcfg.tls]
      dsimp only
      split
      · exact .ok (.tls context)
      · exact .ok .plain
    | true =>
      rw [compose_of_used hresult hused,
        compose_of_used hresult' (hcfg.usesBasicAuth_eq.trans hused), authenticate_eq,
        authenticate_eq]
      dsimp only
      generalize (resolveIdentity source fs cfg.basic cfg.helper address s).1 = i at hidentity
      generalize (resolveIdentity source' fs' cfg'.basic cfg'.helper address s').1 = i' at hidentity
      cases hidentity with
      | error e => exact .error _
      | ok hidentity =>
        cases Address.parse address with
        | error e => exact .error _
        | ok endpoint => exact .ok (.authenticated _ hidentity)

/-- The way through the transport is chosen where an identity is found. -/
theorem compose_of_identity (context : Option TlsContext) {i : Identity} {endpoint : Address}
    (hbuild : (buildTls cfg course fs).result = .ok context) (hused : cfg.usesBasicAuth = true)
    (hidentity : (resolveIdentity source fs cfg.basic cfg.helper address s).1 = .ok i)
    (hparse : Address.parse address = .ok endpoint) :
    (compose cfg address repo settings course fs source s).result =
      .ok (.authenticated (transportVerification context settings)
        ⟨address, endpoint, repo, i, none⟩) := by
  rw [compose_of_used hbuild hused, authenticate_eq, hidentity, hparse]

end SendOption

/-! ## Machines -/

/-- The machines differ in secrets only, as far as a configuration leads to them: the environment
is the same, so are the files for certificates unless these are turned off, the library looks at
the files that it is asked about, and passwords in files and secrets of helpers look alike. -/
structure Machine.Alike (m : Machine σ τ) (m' : Machine σ' τ') (cfg : SecurityConfig) (s : σ)
    (s' : σ') : Prop where
  environment : m'.environment = m.environment
  certificateFiles : ∀ part ∈ (cfg.withDefaults m.environment).tls, part.disabled = false →
    ∀ path ∈ part.files, m'.files.state path = m.files.state path
  certificates : m.certificates.AgreeOn m'.certificates m.files m'.files
  passwordFile : ∀ b ∈ cfg.basic, b.passwordFile ≠ "" →
    BasicAuth.SameContent m.files m'.files b.passwordFile
  helper : ∀ call, (m.launcher call s).1.Alike (m'.launcher call s').1

namespace Command

/-- What is shown of identities that look alike is the same. -/
theorem identityText_eq {i i' : Identity} (h : i.Alike i') : identityText i' = identityText i := by
  cases h with
  | @password user address pwd pwd' h =>
    have hempty : (Identity.password user pwd' address).isEmpty =
        (Identity.password user pwd address).isEmpty := by
      rw [Identity.isEmpty, Identity.isEmpty, h.isEmpty_eq]
    rw [identityText, identityText, hempty, redact_eq_iff.mpr h]
  | token address h => rw [identityText, identityText, redact_eq_iff.mpr h]

theorem addIdentity_eq {i i' : Identity} (h : i.Alike i') (r : Report) :
    addIdentity r i' = addIdentity r i := by
  have haddress : i'.serverAddress = i.serverAddress := by
    cases h <;> rfl
  rw [addIdentity, addIdentity, identityText_eq h, haddress]

theorem addOption_eq {o o' : SendOption} (h : o.Alike o') (r : Report) :
    addOption r o' = addOption r o := by
  cases h with
  | plain => rfl
  | tls context => rfl
  | authenticated v h => exact addIdentity_eq h _

theorem resolutionReport_eq {choice choice' : Except CompositionError SendOption}
    (h : Except.Agree SendOption.Alike choice choice') (title : String) :
    resolutionReport title choice' = resolutionReport title choice := by
  cases h with
  | error e => rfl
  | ok h => rw [resolutionReport, resolutionReport, addOption_eq h]

variable {m : Machine σ τ} {m' : Machine σ' τ'} {cfg cfg' : SecurityConfig} {s : σ} {s' : σ'}
  {t : τ} {t' : τ'}

theorem configuration_eq_ok {path : String}
    (h : SecurityConfig.loadFile m.files path = .ok cfg) :
    configuration m path = .ok (cfg.withDefaults m.environment) := by
  rw [configuration, h]
  rfl

theorem buildTls_eq (h : m.Alike m' cfg s s') (hcfg : cfg.Alike cfg') :
    SendOption.buildTls (cfg'.withDefaults m'.environment) m'.certificates m'.files =
      SendOption.buildTls (cfg.withDefaults m.environment) m.certificates m.files := by
  rw [h.environment, SendOption.buildTls, SendOption.buildTls,
    (hcfg.withDefaults m.environment).tls]
  cases htls : (cfg.withDefaults m.environment).tls with
  | none => rfl
  | some part =>
    dsimp only
    cases hdisabled : part.disabled with
    | true =>
      rw [TlsConfig.buildAlong_of_disabled hdisabled, TlsConfig.buildAlong_of_disabled hdisabled]
    | false =>
      exact TlsConfig.buildAlong_agree h.certificates (h.certificateFiles part htls hdisabled)

/-- On machines that look alike, ways to send are chosen that look alike. -/
theorem compose_alike (h : m.Alike m' cfg s s') (hcfg : cfg.Alike cfg') (host : String)
    (target : Target) (settings : Settings) :
    Except.Agree SendOption.Alike
      (compose m (cfg.withDefaults m.environment) host target settings s).result
      (compose m' (cfg'.withDefaults m'.environment) host target settings s').result := by
  have hdefaults : (cfg.withDefaults m.environment).Alike (cfg'.withDefaults m'.environment) := by
    rw [h.environment]
    exact hcfg.withDefaults m.environment
  refine SendOption.compose_agree hdefaults (buildTls_eq h hcfg) ?_
  have hhelper : (cfg'.withDefaults m'.environment).helper =
      (cfg.withDefaults m.environment).helper := hdefaults.helper
  rw [hhelper]
  exact resolveIdentity_agree hdefaults.basic h.passwordFile
    ((h.helper _).credentials _ settings.helperTimeout)

/-! ## Saying how a registry would be reached -/

/-- The report of how a registry would be reached is one of the choice. -/
theorem result_resolve {target : Target} {host : String}
    (hload : SecurityConfig.loadFile m.files target.config = .ok cfg)
    (hhost : Registry.host target.address = .ok host) :
    (run m (.resolve target) s t).result =
      resolutionReport ("Resolution for " ++ host ++ "/" ++ target.repo)
        (compose m (cfg.withDefaults m.environment) host target
          (settings target defaultTimeout false) s).result := by
  change (runResolve m target s t).result = _
  unfold runResolve
  rw [configuration_eq_ok hload, hhost]
  rfl

theorem result_resolve_of_host_error {target : Target} {e : ReferenceError}
    (hload : SecurityConfig.loadFile m.files target.config = .ok cfg)
    (hhost : Registry.host target.address = .error e) :
    (run m (.resolve target) s t).result = .error (.address e) := by
  change (runResolve m target s t).result = _
  unfold runResolve
  rw [configuration_eq_ok hload, hhost]
  rfl

/-- How a registry would be reached is said in the same way on machines that look alike. -/
theorem result_resolve_eq {target : Target}
    (hload : SecurityConfig.loadFile m.files target.config = .ok cfg)
    (hload' : SecurityConfig.loadFile m'.files target.config = .ok cfg') (hcfg : cfg.Alike cfg')
    (h : m.Alike m' cfg s s') :
    (run m' (.resolve target) s' t').result = (run m (.resolve target) s t).result := by
  cases hhost : Registry.host target.address with
  | error e =>
    rw [result_resolve_of_host_error hload hhost, result_resolve_of_host_error hload' hhost]
  | ok host =>
    rw [result_resolve hload hhost, result_resolve hload' hhost]
    exact resolutionReport_eq (compose_alike h hcfg host target _) _

/-- What is shown of configurations that differ in what is not shown is the same. -/
theorem result_showConfig_eq {path : String}
    (hload : SecurityConfig.loadFile m.files path = .ok cfg)
    (hload' : SecurityConfig.loadFile m'.files path = .ok cfg') (hcfg : cfg.SameShown cfg')
    (henvironment : m'.environment = m.environment) :
    (run m' (.showConfig path) s' t').result = (run m (.showConfig path) s t).result := by
  have hfields := hcfg.configFields_eq m.environment
  have hshown := result_showConfig hload s t
  have hshown' := result_showConfig hload' s' t'
  rw [henvironment, hfields] at hshown'
  exact hshown'.trans hshown.symm

/-- The runs print the same on every console, and end with the same exit code. -/
def SameConsole (run : CommandRun σ τ) (run' : CommandRun σ' τ') : Prop :=
  ∀ width, run'.lines width = run.lines width ∧ run'.exitCode width = run.exitCode width

theorem sameConsole_of_result_eq {run : CommandRun σ τ} {run' : CommandRun σ' τ'}
    (h : run'.result = run.result) : SameConsole run run' := by
  intro width
  rw [CommandRun.lines, CommandRun.lines, CommandRun.exitCode, CommandRun.exitCode, h]
  exact ⟨rfl, rfl⟩

/-- **Commands do not disclose secrets.**  To say how a registry would be reached prints the same
on machines that look alike, with configurations that look alike.  To show a configuration prints
the same for another that differs at most in what is not shown of it. -/
theorem secrets_undisclosed (m : Machine σ τ) (m' : Machine σ' τ') (s : σ) (s' : σ') (t : τ)
    (t' : τ') :
    (∀ (target : Target) (cfg cfg' : SecurityConfig),
      SecurityConfig.loadFile m.files target.config = .ok cfg →
      SecurityConfig.loadFile m'.files target.config = .ok cfg' →
      cfg.Alike cfg' → m.Alike m' cfg s s' →
      SameConsole (run m (.resolve target) s t) (run m' (.resolve target) s' t')) ∧
    (∀ (path : String) (cfg cfg' : SecurityConfig),
      SecurityConfig.loadFile m.files path = .ok cfg →
      SecurityConfig.loadFile m'.files path = .ok cfg' →
      cfg.SameShown cfg' → m'.environment = m.environment →
      SameConsole (run m (.showConfig path) s t) (run m' (.showConfig path) s' t')) :=
  ⟨fun _ _ _ hload hload' hcfg h =>
    sameConsole_of_result_eq (result_resolve_eq hload hload' hcfg h),
   fun _ _ _ hload hload' hcfg henvironment =>
    sameConsole_of_result_eq (result_showConfig_eq hload hload' hcfg henvironment)⟩

/-- A machine on which a configuration is stored, and a password beside it. -/
def keeping (cfg : SecurityConfig) (password : String) : Machine Unit Unit :=
  let files : Files := ⟨fun path =>
    if path = "password" then .file (Text.Utf8.encodeString password)
    else (storing cfg).files.state path⟩
  { storing cfg with files := files, certificates := .overFiles files }

theorem loadFile_keeping (cfg : SecurityConfig) (password : String) :
    SecurityConfig.loadFile (keeping cfg password).files storedTarget.config = .ok cfg := by
  have hplain : SecurityConfig.plainPath storedTarget.config = "security.json" := by decide
  refine SecurityConfig.loadFile_of_stored ?_ ?_ ?_
  · rw [hplain]
    decide
  · rw [hplain]
    decide
  · rw [hplain]
    rfl

theorem readExact_keeping (cfg : SecurityConfig) (password : String) :
    (keeping cfg password).files.readExact "password" = .ok password.toList := by
  have hnul : Files.hasNul "password" = false := by decide
  have hfile : (keeping cfg password).files.state "password" =
      .file (Text.Utf8.encodeString password) := rfl
  rw [Files.readExact_of_file hnul hfile, Text.Utf8.encodeString, Text.Utf8.decode_encode]
  rfl

theorem sameContent_keeping {cfg : SecurityConfig} {password password' : String}
    (h : SameForm password password') :
    BasicAuth.SameContent (keeping cfg password).files (keeping cfg password').files
      "password" := by
  rw [BasicAuth.SameContent, readExact_keeping, readExact_keeping]
  refine .ok ?_
  rwa [String.ofList_toList, String.ofList_toList]

/-- A password file, and two passwords that look alike; and two configurations that differ in the
password and in what is not shown. -/
theorem secrets_undisclosed_of_alike :
    let cfg : SecurityConfig := ⟨some { TlsConfig.empty with disabled := true },
      some { BasicAuth.empty with username := "u", passwordFile := "password" }, ""⟩
    let given (password email : String) : SecurityConfig := ⟨none,
      some { BasicAuth.empty with username := "u", password := password, email := email }, ""⟩
    SameForm "hunter22" "hungry22" ∧
      SameConsole (run (keeping cfg "hunter22") (.resolve storedTarget) () ())
        (run (keeping cfg "hungry22") (.resolve storedTarget) () ()) ∧
      SameConsole
        (run (storing (given "hunter22" "u@example.com")) (.showConfig "security.json") () ())
        (run (storing (given "hungry22" "")) (.showConfig "security.json") () ()) := by
  intro cfg given
  have hform : SameForm "hunter22" "hungry22" := by decide
  have hcfg : cfg.Alike cfg :=
    ⟨rfl, rfl, .some ⟨rfl, rfl, rfl, .refl _, .inl rfl, .refl _⟩⟩
  have hmachines : (keeping cfg "hunter22").Alike (keeping cfg "hungry22") cfg () () := by
    refine ⟨rfl, ?_, TlsCourse.agreeOn_overFiles _ _, ?_, fun _ => .same _⟩
    · rintro part ⟨⟩ hdisabled
      cases hdisabled
    · rintro b ⟨⟩ -
      exact sameContent_keeping hform
  have hgiven : (given "hunter22" "u@example.com").SameShown (given "hungry22" "") :=
    ⟨.none, rfl, .some ⟨rfl, rfl, hform⟩⟩
  exact ⟨hform,
    (secrets_undisclosed (keeping cfg "hunter22") (keeping cfg "hungry22") () () () ()).1
      storedTarget cfg cfg (loadFile_keeping _ _) (loadFile_keeping _ _) hcfg hmachines,
    (secrets_undisclosed (storing (given "hunter22" "u@example.com"))
      (storing (given "hungry22" "")) () () () ()).2 "security.json" _ _ (loadFile_storing _)
      (loadFile_storing _) hgiven rfl⟩

/-! ## What is disclosed all the same -/

theorem exitCode_addOption (title : String) (o : SendOption) :
    (addOption (.titled title) o).exitCode = 0 := by
  cases o <;> rfl

/-- To say how a registry would be reached ends well if there is a way, and if what is said of it
can be shown. -/
theorem exitCode_resolve {target : Target} {host : String} {width : Nat}
    (hload : SecurityConfig.loadFile m.files target.config = .ok cfg)
    (hhost : Registry.host target.address = .ok host) :
    (run m (.resolve target) s t).exitCode width = 0 ↔
      ∃ o, (compose m (cfg.withDefaults m.environment) host target
          (settings target defaultTimeout false) s).result = .ok o ∧
        ∃ lines, (addOption (.titled ("Resolution for " ++ host ++ "/" ++ target.repo)) o).render
          width = .ok lines := by
  rw [CommandRun.exitCode_eq_zero_iff, result_resolve hload hhost]
  cases (compose m (cfg.withDefaults m.environment) host target
    (settings target defaultTimeout false) s).result with
  | ok o =>
    simp [resolutionReport, CommandOutput.render, CommandOutput.exitCode, exitCode_addOption]
  | error e =>
    refine iff_of_false ?_ (by simp)
    rintro ⟨output, houtput, -, hzero⟩
    rw [resolutionReport] at houtput
    split at houtput
    · obtain rfl := Except.ok.inj houtput
      exact absurd hzero (by simp [CommandOutput.exitCode, Report.exitCode, Report.hasFailures,
        Report.fail, Report.add, Report.titled, Finding.isFailure])
    · cases houtput

theorem host_storedTarget : Registry.host storedTarget.address = .ok "registry.example.com" := by
  decide

/-- A configuration with one file for the authorities and for the password. -/
def sharing : SecurityConfig :=
  ⟨some { TlsConfig.empty with caPath := "password" },
    some { BasicAuth.empty with passwordFile := "password" }, ""⟩

/-- What a certificate holds between its first line and its last. -/
def certificateBody : String :=
  "MIGmMFoCAQEwBQYDK2VwMAAwHhcNMjYxMTIwMDUwMDU3WhcNMjYxMTIxMDUwMDU3\n" ++
  "WjAAMCowBQYDK2VwAyEAZU3nchpxZP+yYNrMQDxfqaveWKYuTJNwSFVYoVLkpf0w\n" ++
  "BQYDK2VwA0EA7SGPYRuFjSyL4/gJpRlNmzKFBVuDKj/YUSCMNdXS6m2uXnsoRFo8\n" ++
  "tTDZ0/iB7o8q6mazsvYQK8uuDBnO62VWDg==\n"

/-- A certificate, as it is written in a file. -/
def certificate : String :=
  "-----BEGIN CERTIFICATE-----\n" ++ certificateBody ++ "-----END CERTIFICATE-----"

theorem toList_certificate : certificate.toList = "-----BEGIN CERTIFICATE-----".toList ++
    '\n' :: (certificateBody.toList ++ "-----END CERTIFICATE-----".toList) := by
  have hfirst : "-----BEGIN CERTIFICATE-----\n".toList =
      "-----BEGIN CERTIFICATE-----".toList ++ ['\n'] := by
    decide
  unfold certificate
  rw [String.toList_append, String.toList_append, hfirst, List.append_assoc, List.append_assoc,
    List.singleton_append]

theorem sameForm_certificate : SameForm certificate "-- no certificate --" := by
  have hfirst : "-----BEGIN CERTIFICATE-----".toList =
      ['-', '-'] ++ "---BEGIN CERTIFICATE-----".toList := by
    decide
  have hlast : "-----END CERTIFICATE-----".toList =
      "-----END CERTIFICATE---".toList ++ ['-', '-'] := by
    decide
  have hother : "-- no certificate --".toList =
      ['-', '-'] ++ " no certificate ".toList ++ ['-', '-'] := by
    decide
  have hassoc (first body last : List Char) :
      ['-', '-'] ++ first ++ '\n' :: (body ++ (last ++ ['-', '-'])) =
        ['-', '-'] ++ (first ++ '\n' :: (body ++ last)) ++ ['-', '-'] := by
    simp
  have hcertificate := toList_certificate
  rw [hfirst, hlast, hassoc] at hcertificate
  exact .of_ends hcertificate hother rfl rfl (by simp) (by simp)

/-- The first call for the authorities is the only one, and it is for the password to say how it
is answered. -/
theorem certificates_keeping (password : String) (made : List TlsCall) :
    (keeping sharing password).certificates made (.verifyFile "password") =
      if TlsLibrary.hasBlock "CERTIFICATE" (Text.Utf8.encodeString password) then none
      else some (.library "[X509: NO_CERTIFICATE_OR_CRL_FOUND] no certificate or crl found") := rfl

/-- Whether there is a context is for the password to say. -/
theorem buildTls_sharing (password : String) :
    (SendOption.buildTls (sharing.withDefaults (keeping sharing password).environment)
        (keeping sharing password).certificates (keeping sharing password).files).result =
      if TlsLibrary.hasBlock "CERTIFICATE" (Text.Utf8.encodeString password) then
        .ok (some .standard)
      else
        .error (.authorities "password" (.library
          "[X509: NO_CERTIFICATE_OR_CRL_FOUND] no certificate or crl found")) := by
  have htls : sharing.withDefaults (keeping sharing password).environment = sharing :=
    SecurityConfig.withDefaults_eq_self rfl (by decide)
  have hpaths : TlsConfig.authorityPaths "password" = ["password"] := by decide
  have hanswer := certificates_keeping password [.createContext]
  rw [htls]
  change (TlsConfig.buildAlong { TlsConfig.empty with caPath := "password" } _ _).result = _
  cases hblock : TlsLibrary.hasBlock "CERTIFICATE" (Text.Utf8.encodeString password) with
  | true =>
    rw [hblock, if_pos rfl] at hanswer
    have haccepts : (keeping sharing password).certificates.Accepts
        (TlsConfig.openingCalls { TlsConfig.empty with caPath := "password" }
          (keeping sharing password).files) := by
      rw [TlsConfig.openingCalls, hpaths]
      exact TlsCourse.accepts_append_singleton.mpr
        ⟨TlsCourse.accepts_createContext, fun _ => hanswer⟩
    rw [TlsConfig.buildAlong_of_accepts rfl haccepts]
    rfl
  | false =>
    rw [hblock, if_neg Bool.false_ne_true] at hanswer
    have hfirst : TlsConfig.authorityPaths "password" = [] ++ "password" :: [] := hpaths
    rw [TlsConfig.buildAlong_of_refused rfl hfirst TlsCourse.accepts_createContext hanswer]
    rfl

theorem identity_sharing (password : String) :
    staticIdentity sharing.basic (keeping sharing password).files =
      .ok (.password "" password "") := by
  have hidentity := BasicAuth.identity_of_pair (BasicAuth.pair_of_file
    (b := { BasicAuth.empty with passwordFile := "password" }) (by decide)
    (readExact_keeping sharing password))
  rw [String.ofList_toList] at hidentity
  exact congrArg (Except.mapError ResolutionError.static) hidentity

/-- The transport that carries a password to the registry. -/
def carrying (password : String) : AuthTransport :=
  ⟨"registry.example.com", ⟨"registry.example.com", none⟩, "lib/app", .password "" password "",
    none⟩

/-- With the certificate as the password, there is a way to send. -/
theorem compose_sharing :
    (compose (keeping sharing certificate) (sharing.withDefaults fun _ => none)
        "registry.example.com" storedTarget (settings storedTarget defaultTimeout false)
        ()).result =
      .ok (.authenticated (.context .standard) (carrying certificate)) := by
  refine SendOption.compose_of_identity (some .standard) ?build rfl ?identity ?parse
  case build =>
    refine (buildTls_sharing certificate).trans (if_pos ?_)
    rw [Text.Utf8.encodeString, toList_certificate]
    exact TlsLibrary.hasBlock_of_line (by simp) (by simp) (by decide) _
  case identity =>
    exact congrArg Prod.fst (resolveIdentity_of_no_helper (identity_sharing certificate))
  case parse => decide

/-- What a helper writes that has nothing but a secret. -/
def secretOutput (secret : String) : String := "\x7b\"Secret\":\"" ++ secret ++ "\"\x7d"

/-- A configuration in which only a helper is named. -/
def asking : SecurityConfig := ⟨some { TlsConfig.empty with disabled := true }, none, "x"⟩

/-- A machine with a helper that writes a secret and fails. -/
def complaining (secret : String) : Machine Unit Unit :=
  { storing asking with launcher := fun _ s => (.finished (secretOutput secret) "" 1, s) }

/-- The failure to choose a way that comes of the helper's. -/
def complaint (secret : String) : CompositionError :=
  .credentials (.helper "x" (.helper ⟨Helper.program "x" Helper.directory,
    .failed (secretOutput secret)⟩))

/-- The failure of the helper is shown if the markup in what it says can be read. -/
theorem exists_lines_complaining (secret : String)
    (htrim : Text.trimString (secretOutput secret) = secretOutput secret)
    (hother : secretOutput secret ≠ Helper.unknownServerText) :
    (∃ lines, (run (complaining secret) (.resolve storedTarget) () ()).lines 80 = .ok lines) ↔
      Markup.IsReadable (complaint secret).message.toList := by
  have hempty : (secretOutput secret).isEmpty = false := by
    rw [Bool.eq_false_iff, ne_eq, String.isEmpty_iff]
    simp [secretOutput]
  have hfault : Helper.failureFault (Helper.failureText (secretOutput secret) "" 1) =
      .failed (secretOutput secret) := by
    rw [Helper.failureText, htrim, hempty, Bool.not_false, if_pos rfl, Helper.failureFault,
      if_neg hother]
  have hasked : ((HelperSource.programs (complaining secret).launcher none Helper.directory).get
      "x" "registry.example.com" ()).1 =
        .error (.helper ⟨Helper.program "x" Helper.directory, .failed (secretOutput secret)⟩) := by
    rw [← hfault]
    rfl
  have hcompose : (compose (complaining secret)
      (asking.withDefaults (complaining secret).environment) "registry.example.com" storedTarget
      (settings storedTarget defaultTimeout false) ()).result = .error (complaint secret) :=
    SendOption.compose_of_helper_error
      ⟨⟨none, rfl⟩, show "x" ≠ "" by decide, .anonymous, rfl⟩ hasked
  have hstep : Markup.IsReadable "resolve".toList :=
    (Markup.isUntagged_of_not_mem (by decide)).isReadable
  have hresult : (run (complaining secret) (.resolve storedTarget) () ()).result =
      .ok (.report ((Report.titled "Resolution for registry.example.com/lib/app").fail "resolve"
        (complaint secret).message)) := by
    rw [result_resolve (m := complaining secret) (loadFile_storing asking) host_storedTarget,
      hcompose]
    rfl
  simp only [CommandRun.lines_eq_ok_iff, hresult, Except.ok.injEq, exists_eq_left',
    CommandOutput.render, Report.exists_render_iff]
  simp only [Report.fail, Report.add, Report.titled, List.nil_append, List.forall_mem_singleton,
    hstep, true_and]
  exact forall_prop_of_true (by decide)

/-- With the certificate as the password, to say how the registry would be reached ends well. -/
theorem exitCode_of_certificate :
    (run (keeping sharing certificate) (.resolve storedTarget) () ()).exitCode 80 = 0 := by
  rw [exitCode_resolve (loadFile_keeping _ _) host_storedTarget]
  refine ⟨_, compose_sharing, Report.exists_render_iff.mpr fun _ f hf => ?_⟩
  -- the report is the one of the other password, which is shorter to look through
  have halike : SendOption.Alike (.authenticated (.context .standard) (carrying certificate))
      (.authenticated (.context .standard) (carrying "-- no certificate --")) :=
    .authenticated _ (.password "" "" sameForm_certificate)
  rw [← addOption_eq halike] at hf
  have hplain : (addOption (.titled "Resolution for registry.example.com/lib/app")
      (.authenticated (.context .standard) (carrying "-- no certificate --"))).findings.all
        (fun f => !f.step.toList.contains '[' && !f.detail.toList.contains '[') = true := by
    decide
  have huntagged := List.all_eq_true.mp hplain f hf
  simp only [Bool.and_eq_true, Bool.not_eq_true', List.contains_eq_mem, decide_eq_false_iff_not]
    at huntagged
  exact ⟨(Markup.isUntagged_of_not_mem huntagged.1).isReadable,
    (Markup.isUntagged_of_not_mem huntagged.2).isReadable⟩

/-- With another password the file holds no authorities, and there is no way to send. -/
theorem exitCode_of_no_certificate :
    (run (keeping sharing "-- no certificate --") (.resolve storedTarget) () ()).exitCode 80 ≠
      0 := by
  rw [ne_eq, exitCode_resolve (loadFile_keeping _ _) host_storedTarget]
  rintro ⟨o, ho, -⟩
  have hblock : TlsLibrary.hasBlock "CERTIFICATE"
      (Text.Utf8.encodeString "-- no certificate --") = false := by
    decide
  have hbuild := buildTls_sharing "-- no certificate --"
  rw [hblock, if_neg Bool.false_ne_true] at hbuild
  rw [compose, SendOption.compose_of_build_error hbuild] at ho
  cases ho

/-- Of the two secrets one can be shown, and the other cannot. -/
theorem lines_complaining_ne :
    (run (complaining "ab(/)yz") (.resolve storedTarget) () ()).lines 80 ≠
      (run (complaining "ab[/]yz") (.resolve storedTarget) () ()).lines 80 := by
  intro hlines
  have hshown := (exists_lines_complaining "ab(/)yz" (by decide)
    (by decide)).mpr (Markup.isUntagged_of_not_mem (by decide +kernel)).isReadable
  rw [hlines, exists_lines_complaining "ab[/]yz" (by decide) (by decide +kernel)]
    at hshown
  obtain ⟨text, htext⟩ := hshown
  have hcomplaint : (complaint "ab[/]yz").message.toList =
      (complaint "ab").message.toList.dropLast.dropLast ++
      '[' :: '/' :: ']' :: "yz\"\x7d".toList := by
    decide
  have hfront : (complaint "ab").message.toList.dropLast.dropLast.all
      (fun c => c != '[' && c != '\\') = true := by
    decide
  rw [hcomplaint, Markup.render_closing fun c hc => by
    simpa using List.all_eq_true.mp hfront c hc] at htext
  cases htext

/-- **What is disclosed.**  A password that is a certificate, in the file that the authorities are
also read from, and another that looks like it: the first is accepted and the second is not.
And of two secrets in the output of a helper that fails, one is shown and the other cannot be. -/
theorem discloses_shared_file_and_complaint :
    (SameForm certificate "-- no certificate --" ∧
      (∀ password, SecurityConfig.loadFile (keeping sharing password).files storedTarget.config =
        .ok sharing) ∧
      (run (keeping sharing certificate) (.resolve storedTarget) () ()).exitCode 80 = 0 ∧
      (run (keeping sharing "-- no certificate --") (.resolve storedTarget) () ()).exitCode 80 ≠
        0) ∧
    SameForm "ab(/)yz" "ab[/]yz" ∧
      (∀ secret, SecurityConfig.loadFile (complaining secret).files storedTarget.config =
        .ok asking) ∧
      (run (complaining "ab(/)yz") (.resolve storedTarget) () ()).lines 80 ≠
        (run (complaining "ab[/]yz") (.resolve storedTarget) () ()).lines 80 := by
  exact ⟨⟨sameForm_certificate, loadFile_keeping sharing, exitCode_of_certificate,
    exitCode_of_no_certificate⟩, by decide, fun _ => loadFile_storing asking,
    lines_complaining_ne⟩

end Command
end RegistryAuth
