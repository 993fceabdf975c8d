import RegistryAuth.Proofs.Credential.Resolution
import RegistryAuth.Proofs.Tls.Context
import RegistryAuth.Proofs.Transport.Run
import RegistryAuth.SendOption

/-!
# Which way is chosen, and in which order

`SendOption.compose` looks at three things: the section for certificates, the static
credentials, and the helper.  `Composed` lists the ways in which it can end
(`SendOption.composed_compose`), and `SendOption.compose_ordered` says which of them is
taken, and what has been done by then.

What is asked of helpers is seen by watching them (`SendOption.compose_watched`).  That a
failure of the certificates comes before all that has to do with credentials is then said
twice over: nothing is asked, and the same failure comes of any other credentials, and of
files that are the same only at the paths of the section for certificates
(`SameCertificates`).
-/

namespace RegistryAuth

variable {σ : Type}

/-- The configurations have the same section for certificates, and the files are the same
where it looks. -/
def SameCertificates (cfg cfg' : SecurityConfig) (fs fs' : Files) : Prop :=
  cfg'.tls = cfg.tls ∧
    ∀ part, cfg.tls = some part → ∀ path ∈ part.paths, fs'.state path = fs.state path

theorem SecurityConfig.usesBasicAuth_eq_true {cfg : SecurityConfig} :
    cfg.usesBasicAuth = true ↔ cfg.basic.isSome = true ∨ cfg.helper ≠ "" := by
  simp [usesBasicAuth]

namespace SendOption

variable {cfg cfg' : SecurityConfig} {address repo : String} {settings : Settings}
  {course : TlsCourse} {fs fs' : Files} {source : HelperSource σ} {s : σ}

/-! ## The ways in which a choice ends -/

/-- How a choice ends, and the helpers afterwards. -/
inductive Composed (cfg : SecurityConfig) (address repo : String) (settings : Settings)
    (course : TlsCourse) (fs : Files) (source : HelperSource σ) (s : σ) :
    Except CompositionError SendOption → σ → Prop where
  | misbuilt {e : TlsError} (build : (buildTls cfg course fs).result = .error e) :
      Composed cfg address repo settings course fs source s (.error (.tls e)) s
  | plain (tls : cfg.tls = none) (unused : cfg.usesBasicAuth = false) :
      Composed cfg address repo settings course fs source s (.ok .plain) s
  | tls {part : TlsConfig} {context : Option TlsContext} (tls : cfg.tls = some part)
      (build : (part.buildAlong course fs).result = .ok context)
      (unused : cfg.usesBasicAuth = false) :
      Composed cfg address repo settings course fs source s (.ok (.tls context)) s
  | unresolved {context : Option TlsContext} {e : ResolutionError}
      (build : (buildTls cfg course fs).result = .ok context) (used : cfg.usesBasicAuth = true)
      (identity : (resolveIdentity source fs cfg.basic cfg.helper address s).1 = .error e) :
      Composed cfg address repo settings course fs source s (.error (.credentials e))
        (resolveIdentity source fs cfg.basic cfg.helper address s).2
  | misaddressed {context : Option TlsContext} {i : Identity} {e : NumberError}
      (build : (buildTls cfg course fs).result = .ok context) (used : cfg.usesBasicAuth = true)
      (identity : (resolveIdentity source fs cfg.basic cfg.helper address s).1 = .ok i)
      (parse : Address.parse address = .error e) :
      Composed cfg address repo settings course fs source s (.error (.address e))
        (resolveIdentity source fs cfg.basic cfg.helper address s).2
  | authenticated {context : Option TlsContext} {i : Identity} {endpoint : Address}
      (build : (buildTls cfg course fs).result = .ok context) (used : cfg.usesBasicAuth = true)
      (identity : (resolveIdentity source fs cfg.basic cfg.helper address s).1 = .ok i)
      (parse : Address.parse address = .ok endpoint) :
      Composed cfg address repo settings course fs source s
        (.ok (.authenticated (transportVerification context settings)
          ⟨address, endpoint, repo, i, none⟩))
        (resolveIdentity source fs cfg.basic cfg.helper address s).2

theorem compose_of_build_error {e : TlsError} (h : (buildTls cfg course fs).result = .error e) :
    compose cfg address repo settings course fs source s =
      ⟨(buildTls cfg course fs).calls, .error (.tls e), s⟩ := by
  simp only [compose, h]

theorem compose_of_unused {context : Option TlsContext}
    (h : (buildTls cfg course fs).result = .ok context) (hunused : cfg.usesBasicAuth = false) :
    compose cfg address repo settings course fs source s =
      ⟨(buildTls cfg course fs).calls, .ok (if cfg.tls.isSome then .tls context else .plain),
        s⟩ := by
  simp only [compose, h, hunused, Bool.false_eq_true, if_false]

theorem compose_of_used {context : Option TlsContext}
    (h : (buildTls cfg course fs).result = .ok context) (hused : cfg.usesBasicAuth = true) :
    compose cfg address repo settings course fs source s =
      ⟨(buildTls cfg course fs).calls,
        (authenticate cfg address repo settings context fs source s).1,
        (authenticate cfg address repo settings context fs source s).2⟩ := by
  simp only [compose, h, hused, if_true]

/-- What comes of credentials follows from what comes of resolving the identity. -/
theorem authenticate_eq (context : Option TlsContext) :
    authenticate cfg address repo settings context fs source s =
      (match (resolveIdentity source fs cfg.basic cfg.helper address s).1 with
        | .error e => .error (.credentials e)
        | .ok i =>
          match Address.parse address with
          | .error e => .error (.address e)
          | .ok endpoint => .ok (.authenticated (transportVerification context settings)
              ⟨address, endpoint, repo, i, none⟩),
        (resolveIdentity source fs cfg.basic cfg.helper address s).2) := by
  rw [authenticate]
  generalize resolveIdentity source fs cfg.basic cfg.helper address s = resolution
  rcases resolution with ⟨e | i, s'⟩
  · rfl
  · simp only [AuthTransport.make]
    cases Address.parse address <;> rfl

/-- Every choice ends in one of the ways. -/
theorem composed_compose :
    Composed cfg address repo settings course fs source s
      (compose cfg address repo settings course fs source s).result
      (compose cfg address repo settings course fs source s).helpers := by
  cases hbuild : (buildTls cfg course fs).result with
  | error e =>
    rw [compose_of_build_error hbuild]
    exact .misbuilt hbuild
  | ok context =>
    cases hused : cfg.usesBasicAuth with
    | false =>
      rw [compose_of_unused hbuild hused]
      cases htls : cfg.tls with
      | none => exact .plain htls hused
      | some part => exact .tls htls (by rwa [buildTls, htls] at hbuild) hused
    | true =>
      rw [compose_of_used hbuild hused, authenticate_eq]
      cases hidentity : (resolveIdentity source fs cfg.basic cfg.helper address s).1 with
      | error e => exact .unresolved hbuild hused hidentity
      | ok i =>
        cases hparse : Address.parse address with
        | error e => exact .misaddressed hbuild hused hidentity hparse
        | ok endpoint => exact .authenticated hbuild hused hidentity hparse

theorem compose_tlsCalls :
    (compose cfg address repo settings course fs source s).tlsCalls =
      (buildTls cfg course fs).calls := by
  cases hbuild : (buildTls cfg course fs).result with
  | error e => rw [compose_of_build_error hbuild]
  | ok context =>
    cases hused : cfg.usesBasicAuth with
    | false => rw [compose_of_unused hbuild hused]
    | true => rw [compose_of_used hbuild hused]

/-! ## The order of effects -/

theorem buildTls_congr (h : SameCertificates cfg cfg' fs fs') :
    buildTls cfg' course fs' = buildTls cfg course fs := by
  rw [buildTls, buildTls, h.1]
  cases htls : cfg.tls with
  | none => rfl
  | some part => exact TlsConfig.buildAlong_congr (h.2 part htls)

/-- The questions that come of a choice. -/
def askedHelpers (cfg : SecurityConfig) (address : String) (course : TlsCourse) (fs : Files) :
    List HelperCall :=
  match (buildTls cfg course fs).result with
  | .error _ => []
  | .ok _ => helperCalls fs cfg.basic cfg.helper address

/-- Helpers are asked where the certificates are in order, a helper is named, and the static
credentials can be read. -/
def Asks (cfg : SecurityConfig) (course : TlsCourse) (fs : Files) : Prop :=
  (∃ context, (buildTls cfg course fs).result = .ok context) ∧
    cfg.helper ≠ "" ∧ ∃ identity, staticIdentity cfg.basic fs = .ok identity

theorem askedHelpers_cases (cfg : SecurityConfig) (address : String) (course : TlsCourse)
    (fs : Files) :
    askedHelpers cfg address course fs =
        [HelperCall.make cfg.helper, HelperCall.get cfg.helper address] ∧
      Asks cfg course fs ∨
    askedHelpers cfg address course fs = [] ∧ ¬Asks cfg course fs := by
  unfold askedHelpers
  cases hbuild : (buildTls cfg course fs).result with
  | error e => exact .inr ⟨rfl, fun ⟨⟨_, h⟩, _⟩ => by rw [hbuild] at h; cases h⟩
  | ok context =>
    rcases helperCalls_cases fs cfg.basic cfg.helper address with
      ⟨hcalls, hasks⟩ | ⟨hcalls, hasks⟩
    · exact .inl ⟨hcalls, ⟨context, hbuild⟩, hasks⟩
    · exact .inr ⟨hcalls, fun h => hasks h.2⟩

/-- Helpers are asked in one way or not at all. -/
theorem askedHelpers_eq_iff :
    (askedHelpers cfg address course fs =
        [HelperCall.make cfg.helper, HelperCall.get cfg.helper address] ↔ Asks cfg course fs) ∧
      (askedHelpers cfg address course fs = [] ↔ ¬Asks cfg course fs) := by
  rcases askedHelpers_cases cfg address course fs with ⟨hcalls, hasks⟩ | ⟨hcalls, hasks⟩
  · simp [hcalls, hasks]
  · simp [hcalls, hasks]

theorem askedHelpers_of_unused (h : cfg.usesBasicAuth = false) :
    askedHelpers cfg address course fs = [] := by
  refine askedHelpers_eq_iff.2.mpr fun hasks => ?_
  have hused := SecurityConfig.usesBasicAuth_eq_true.mpr (.inr hasks.2.1)
  exact absurd (h.symm.trans hused) Bool.false_ne_true

/-- To watch the helpers changes neither the choice nor the helpers. -/
theorem compose_watched (calls : List HelperCall) :
    compose cfg address repo settings course fs source.watched (calls, s) =
      ⟨(compose cfg address repo settings course fs source s).tlsCalls,
        (compose cfg address repo settings course fs source s).result,
        calls ++ askedHelpers cfg address course fs,
        (compose cfg address repo settings course fs source s).helpers⟩ := by
  cases hbuild : (buildTls cfg course fs).result with
  | error e =>
    rw [compose_of_build_error hbuild, compose_of_build_error hbuild, askedHelpers, hbuild]
    simp only [List.append_nil]
  | ok context =>
    cases hused : cfg.usesBasicAuth with
    | false =>
      rw [compose_of_unused hbuild hused, compose_of_unused hbuild hused,
        askedHelpers_of_unused hused, List.append_nil]
    | true =>
      rw [compose_of_used hbuild hused, compose_of_used hbuild hused, authenticate_eq,
        authenticate_eq, resolveIdentity_watched, askedHelpers, hbuild]

/-! ## The table of choices -/

/-- The choice is the one that the configuration asks for.  A context is the one that is
built, and none where the section is turned off; a transport is for exactly the address, the
repository and the identity, and has no token yet. -/
structure Fits (cfg : SecurityConfig) (address repo : String) (settings : Settings)
    (course : TlsCourse) (fs : Files) (source : HelperSource σ) (s : σ) (o : SendOption) :
    Prop where
  plain_iff : o = .plain ↔ cfg.tls = none ∧ cfg.usesBasicAuth = false
  tls_iff : ∀ context, o = .tls context ↔ ∃ part, cfg.tls = some part ∧
    (part.buildAlong course fs).result = .ok context ∧ cfg.usesBasicAuth = false
  tls_none_iff : o = .tls none ↔ ∃ part, cfg.tls = some part ∧
    part.disabled = true ∧ cfg.usesBasicAuth = false
  authenticated_iff : (∃ v t, o = .authenticated v t) ↔ cfg.usesBasicAuth = true
  transport_eq : ∀ v t, o = .authenticated v t → ∃ context identity endpoint,
    (buildTls cfg course fs).result = .ok context ∧
    (resolveIdentity source fs cfg.basic cfg.helper address s).1 = .ok identity ∧
    Address.parse address = .ok endpoint ∧
    v = transportVerification context settings ∧
    t = ⟨address, endpoint, repo, identity, none⟩

theorem fits_of_composed {o : SendOption} {s' : σ}
    (h : Composed cfg address repo settings course fs source s (.ok o) s') :
    Fits cfg address repo settings course fs source s o := by
  cases h with
  | plain htls hunused =>
    exact ⟨iff_of_true rfl ⟨htls, hunused⟩, by simp [htls], by simp [htls], by simp [hunused],
      by simp⟩
  | @tls part context htls hbuild hunused =>
    refine ⟨by simp [htls], fun c => ?_, ?_, by simp [hunused], by simp⟩
    · simp [htls, hbuild, hunused]
    · simpa [htls, hunused] using TlsConfig.context_eq_none hbuild
  | authenticated hbuild hused hidentity hparse =>
    refine ⟨by simp [hused], by simp [hused], by simp [hused], ?_, ?_⟩
    · exact iff_of_true ⟨_, _, rfl⟩ hused
    · rintro v t ⟨rfl, rfl⟩
      exact ⟨_, _, _, hbuild, hidentity, hparse, rfl, rfl⟩

/-- What the credentials and the other files are plays no part in what is asked of the
library, nor in a failure of it. -/
theorem compose_sameCertificates {address' repo' : String} {settings' : Settings}
    (h : SameCertificates cfg cfg' fs fs') :
    (compose cfg' address' repo' settings' course fs' source s).tlsCalls =
        (compose cfg address repo settings course fs source s).tlsCalls ∧
      ∀ e, (buildTls cfg course fs).result = .error e →
        (compose cfg' address' repo' settings' course fs' source s).result = .error (.tls e) := by
  have hbuild : buildTls cfg' course fs' = buildTls cfg course fs := buildTls_congr h
  refine ⟨by rw [compose_tlsCalls, compose_tlsCalls, hbuild], fun e he => ?_⟩
  rw [compose_of_build_error (hbuild ▸ he)]

/-- The failure of a helper that is asked is what comes of the choice. -/
theorem compose_of_helper_error {e : HelperFailure} (h : Asks cfg course fs)
    (herror : (source.get cfg.helper address (source.make cfg.helper s)).1 = .error e) :
    (compose cfg address repo settings course fs source s).result =
      .error (.credentials (.helper cfg.helper e)) := by
  obtain ⟨⟨context, hbuild⟩, hhelper, hstatic⟩ := h
  have hused := SecurityConfig.usesBasicAuth_eq_true.mpr (.inr hhelper)
  have hidentity := resolveIdentity_eq_error.mpr (.inr ⟨hstatic, hhelper, e, herror, rfl⟩)
  rw [compose_of_used hbuild hused, authenticate_eq, hidentity]

/-- Credentials are implied where some are given or a helper is named.  A choice, where there
is one, is the one of the table.  The calls for certificates, and a failure of theirs, are the
same whatever the credentials, the registry and the other files are; and where they fail, no
helper is made.  Nor is one made where no credentials are implied.  One that is to be asked is
made once and right afterwards asked once for the address, and its failure is what comes of
the choice. -/
theorem compose_ordered (cfg : SecurityConfig) (address repo : String) (settings : Settings)
    (course : TlsCourse) (fs : Files) (source : HelperSource σ) (s : σ) :
    let run := compose cfg address repo settings course fs source s
    let watched := compose cfg address repo settings course fs source.watched ([], s)
    let asked := watched.helpers.1
    (cfg.usesBasicAuth = true ↔ cfg.basic.isSome = true ∨ cfg.helper ≠ "") ∧
    (watched.result = run.result ∧ watched.helpers.2 = run.helpers) ∧
    (∀ o, run.result = .ok o → Fits cfg address repo settings course fs source s o) ∧
    (∀ e, (buildTls cfg course fs).result = .error e →
      run.result = .error (.tls e) ∧ run.helpers = s ∧ asked = []) ∧
    (∀ cfg' address' repo' settings' fs', SameCertificates cfg cfg' fs fs' →
      let run' := compose cfg' address' repo' settings' course fs' source s
      run'.tlsCalls = run.tlsCalls ∧
        ∀ e, (buildTls cfg course fs).result = .error e → run'.result = .error (.tls e)) ∧
    (cfg.usesBasicAuth = false → asked = []) ∧
    (asked = [.make cfg.helper, .get cfg.helper address] ↔ Asks cfg course fs) ∧
    (asked = [] ↔ ¬Asks cfg course fs) ∧
    (Asks cfg course fs → ∀ e,
      (source.get cfg.helper address (source.make cfg.helper s)).1 = .error e →
      run.result = .error (.credentials (.helper cfg.helper e))) := by
  intro run watched asked
  have hwatched : watched = ⟨run.tlsCalls, run.result, askedHelpers cfg address course fs,
      run.helpers⟩ := compose_watched []
  have hasked : asked = askedHelpers cfg address course fs := by simp only [asked, hwatched]
  have hcomposed : Composed cfg address repo settings course fs source s run.result run.helpers :=
    composed_compose
  rw [hasked]
  refine ⟨SecurityConfig.usesBasicAuth_eq_true, by simp only [hwatched, and_self],
    fun o ho => fits_of_composed (ho ▸ hcomposed), fun e he => ?_,
    fun _ _ _ _ _ hsame => compose_sameCertificates hsame, askedHelpers_of_unused,
    askedHelpers_eq_iff.1, askedHelpers_eq_iff.2, fun hasks _ => compose_of_helper_error hasks⟩
  have hrun : run = ⟨_, .error (.tls e), s⟩ := compose_of_build_error he
  exact ⟨by rw [hrun], by rw [hrun], by rw [askedHelpers, he]⟩

/-- A section that is turned off, credentials in which nothing is set, and a helper: the
helper is made and asked. -/
theorem compose_ordered_of_helper :
    let cfg : SecurityConfig :=
      ⟨some { TlsConfig.empty with disabled := true }, some .empty, "pass"⟩
    let course : TlsCourse := fun _ _ => none
    let fs : Files := ⟨fun _ => .missing⟩
    let source : HelperSource Unit :=
      ⟨fun _ s => s, fun _ _ s => (.ok ⟨Helper.tokenName, "t", ""⟩, s)⟩
    Asks cfg course fs ∧
      (compose cfg "registry.example.com" "lib/app" .standard course fs source.watched
        ([], ())).helpers.1 = [.make "pass", .get "pass" "registry.example.com"] := by
  intro cfg course fs source
  have hasks : Asks cfg course fs := ⟨⟨none, rfl⟩, by decide, .anonymous, rfl⟩
  obtain ⟨-, -, -, -, -, -, hasked, -, -⟩ :=
    compose_ordered cfg "registry.example.com" "lib/app" .standard course fs source ()
  exact ⟨hasks, hasked.mpr hasks⟩

end SendOption
end RegistryAuth
