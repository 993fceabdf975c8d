import RegistryAuth.Command.Run
import RegistryAuth.Proofs.Composition.Choice
import RegistryAuth.Proofs.Config.Stored

/-!
# Whether certificates are verified

Certificates go unverified only where someone asks for it, and who is listened to depends on
the section for certificates: where there is one that is not turned off, its own flag counts
and the settings do not; else the settings count (`SecurityConfig.AsksUnverified`).
`SendOption.verification_isOff_iff` says so of every choice, whether requests go through the
transport that carries credentials or not.

A context is read off the calls that make it: a new one verifies, and two calls drop what it
checks.  `TlsContext.after` says what each call leaves, and `TlsConfig.replay_calls` that a
context is what all of its calls leave.

A command that reaches a registry gives every configuration a section for certificates.  So
its option to go without verification counts only where that section is turned off
(`Command.reaches_unverified_iff`).
-/

namespace RegistryAuth

variable {σ τ : Type}

/-! ## Contexts and the calls that make them -/

namespace TlsContext

/-- One of the two checks is dropped. -/
def IsOff (c : TlsContext) : Prop := c.verifies = false ∨ c.checksHostname = false

/-- What a call leaves of a context, where the library hands out `fresh` as a new one. -/
def after (fresh : TlsContext) (context : Option TlsContext) : TlsCall → Option TlsContext
  | .createContext => some fresh
  | .dropHostnameCheck => context.map fun c => { c with checksHostname := false }
  | .dropVerification => context.map fun c => { c with verifies := false }
  | .verifyDirectory _ | .verifyFile _ | .certChain _ _ _ => context

/-- What calls leave, one after the other. -/
def replay (fresh : TlsContext) (calls : List TlsCall) (context : Option TlsContext) :
    Option TlsContext :=
  calls.foldl (after fresh) context

theorem replay_append (fresh : TlsContext) (calls calls' : List TlsCall)
    (context : Option TlsContext) :
    replay fresh (calls ++ calls') context = replay fresh calls' (replay fresh calls context) :=
  List.foldl_append

@[simp] theorem isOff_lax : lax.IsOff := .inl rfl

@[simp] theorem not_isOff_standard : ¬standard.IsOff := by
  rintro (h | h) <;> cases h

end TlsContext

namespace TlsConfig

variable {cfg : TlsConfig} {course : TlsCourse} {fs : Files} {fresh : TlsContext}

/-- What is called to load something changes nothing about what a context checks. -/
theorem replay_of_loads {calls : List TlsCall} (h : ∀ call ∈ calls, call.words?.isSome)
    (context : Option TlsContext) : TlsContext.replay fresh calls context = context := by
  have hload {call : TlsCall} (h : call.words?.isSome) :
      TlsContext.after fresh context call = context := by
    cases call with
    | verifyDirectory | verifyFile | certChain => rfl
    | createContext | dropHostnameCheck | dropVerification => cases h
  induction calls with
  | nil => rfl
  | cons call calls ih =>
    obtain ⟨hcall, hcalls⟩ := List.forall_mem_cons.mp h
    rw [TlsContext.replay, List.foldl_cons, hload hcall]
    exact ih hcalls

theorem replay_openingCalls : TlsContext.replay fresh (cfg.openingCalls fs) none = some fresh := by
  refine replay_of_loads (fun call hcall => ?_) (some fresh)
  obtain ⟨path, -, rfl⟩ := List.mem_map.mp hcall
  rw [words?_authorityCall]
  rfl

/-- Where the checks are dropped, nothing is left of them. -/
theorem replay_drops :
    TlsContext.replay .standard cfg.drops (some .standard) =
      some (if cfg.skipVerify then .lax else .standard) := by
  rw [drops]
  cases cfg.skipVerify <;> rfl

/-- A context is what its calls leave: none where none are made, and else a new one, less the
checks that are dropped. -/
theorem replay_calls {context : Option TlsContext}
    (h : (cfg.buildAlong course fs).result = .ok context) :
    TlsContext.replay .standard (cfg.buildAlong course fs).calls none = context := by
  cases hdisabled : cfg.disabled with
  | true =>
    rw [buildAlong_of_disabled hdisabled] at h ⊢
    exact Except.ok.inj h
  | false =>
    have hmade : Made cfg course fs (cfg.buildAlong course fs) := made_buildAlong hdisabled
    generalize cfg.buildAlong course fs = run at hmade h
    cases hmade with
    | authority | client => cases h
    | complete =>
      have hchain : ∀ call ∈ (cfg.loadClient (course (cfg.openingCalls fs)) fs).1,
          call.words?.isSome := by
        intro call hcall
        obtain ⟨passphrase, rfl⟩ := mem_loadClient hcall
        rfl
      rw [TlsContext.replay_append, TlsContext.replay_append, replay_openingCalls,
        replay_of_loads hchain, replay_drops]
      exact Except.ok.inj h

end TlsConfig

/-! ## What a configuration asks for -/

/-- Certificates go unverified: the flag is not set, or one of the context's checks is
dropped. -/
def Verification.IsOff : Verification → Prop
  | .flag isOn => isOn = false
  | .context c => c.IsOff

/-- Verification is off where it is in the context of the connection. -/
theorem Verification.isOff_effective (v : Verification) : v.effective.IsOff ↔ v.IsOff := by
  cases v with
  | context c => exact Iff.rfl
  | flag isOn =>
    cases isOn with
    | true => exact iff_of_false TlsContext.not_isOff_standard (by simp [IsOff])
    | false => exact iff_of_true TlsContext.isOff_lax rfl

namespace SecurityConfig

variable {cfg : SecurityConfig} {settings : Settings}

/-- Someone asks that certificates go unverified: a section for them, if there is one that is
not turned off, and else the settings. -/
def AsksUnverified (cfg : SecurityConfig) (settings : Settings) : Prop :=
  (∃ part, cfg.tls = some part ∧ part.disabled = false ∧ part.skipVerify = true) ∨
    (cfg.tls = none ∨ ∃ part, cfg.tls = some part ∧ part.disabled = true) ∧
      settings.verifyTls = false

/-- How a configuration has certificates verified. -/
def verification (cfg : SecurityConfig) (settings : Settings) : Verification :=
  match cfg.tls with
  | none => .flag settings.verifyTls
  | some part =>
    if part.disabled then .flag settings.verifyTls
    else .context (if part.skipVerify then .lax else .standard)

theorem verification_of_tls {part : TlsConfig} (h : cfg.tls = some part) :
    cfg.verification settings =
      if part.disabled then .flag settings.verifyTls
      else .context (if part.skipVerify then .lax else .standard) := by
  rw [verification, h]

theorem isOff_iff_asksUnverified :
    (cfg.verification settings).IsOff ↔ cfg.AsksUnverified settings := by
  cases htls : cfg.tls with
  | none => simp [verification, AsksUnverified, htls, Verification.IsOff]
  | some part =>
    rw [verification_of_tls htls, AsksUnverified, htls]
    -- which of the three is asked is settled by the two flags
    cases hdisabled : part.disabled <;> cases hskip : part.skipVerify <;>
      simp [Verification.IsOff, hdisabled, hskip]

end SecurityConfig

/-! ## What is chosen -/

namespace SendOption

variable {cfg cfg' : SecurityConfig} {address address' repo repo' : String} {settings : Settings}
  {course course' : TlsCourse} {fs fs' : Files} {source source' : HelperSource σ} {s s' : σ}
  {o o' : SendOption}

/-- What comes of a build is how the configuration has certificates verified. -/
theorem transportVerification_eq {context : Option TlsContext}
    (h : (buildTls cfg course fs).result = .ok context) :
    transportVerification context settings = cfg.verification settings := by
  cases htls : cfg.tls with
  | none =>
    rw [buildTls, htls] at h
    rw [SecurityConfig.verification, htls, ← Except.ok.inj h]
    rfl
  | some part =>
    rw [buildTls, htls] at h
    rw [SecurityConfig.verification_of_tls htls]
    cases hdisabled : part.disabled with
    | true =>
      rw [(TlsConfig.context_eq_none h).mpr hdisabled]
      rfl
    | false =>
      rw [TlsConfig.context_eq hdisabled h]
      rfl

/-- Every choice has certificates verified as the configuration does: what the credentials and
the helper are plays no part in it. -/
theorem verification_of_composed
    (h : Composed cfg address repo settings course fs source s (.ok o) s') :
    o.verification settings = cfg.verification settings := by
  cases h with
  | plain htls => rw [SecurityConfig.verification, htls]; rfl
  | @tls part context htls hbuild =>
    have hbuild : (buildTls cfg course fs).result = .ok context := by rwa [buildTls, htls]
    rw [← transportVerification_eq hbuild]
    cases context <;> rfl
  | authenticated hbuild => exact transportVerification_eq hbuild

/-- A context with which a client or a transport verifies certificates is the one that the calls
of the choice leave. -/
theorem replay_tlsCalls {c : TlsContext}
    (h : (compose cfg address repo settings course fs source s).result = .ok o)
    (hc : o.verification settings = .context c) :
    TlsContext.replay .standard
      (compose cfg address repo settings course fs source s).tlsCalls none = some c := by
  obtain ⟨context, hbuild⟩ : ∃ context, (buildTls cfg course fs).result = .ok context := by
    cases hbuild : (buildTls cfg course fs).result with
    | ok context => exact ⟨context, rfl⟩
    | error e => rw [compose_of_build_error hbuild] at h; cases h
  rw [verification_of_composed (h ▸ composed_compose), ← transportVerification_eq hbuild] at hc
  rw [compose_tlsCalls]
  cases htls : cfg.tls with
  | none =>
    rw [buildTls, htls] at hbuild
    rw [← Except.ok.inj hbuild] at hc
    cases hc
  | some part =>
    rw [buildTls, htls] at hbuild ⊢
    rw [TlsConfig.replay_calls hbuild]
    cases context with
    | none => cases hc
    | some c' => rw [Verification.context.inj hc]

/-- **Certificates go unverified where someone asks for it, and nowhere else.**  For every choice
of a way to send:

* verification is off exactly where the configuration, together with the settings, asks for it;
* that is what counts in the connection: a client that is given no transport is told just this,
  and so is the transport of one that is; and a context is the one that its calls leave;
* any other choice for the same section and the same settings, whatever its credentials and its
  helper are, and whatever they came to, verifies in the same way. -/
theorem verification_isOff_iff
    (h : (compose cfg address repo settings course fs source s).result = .ok o) :
    ((o.verification settings).IsOff ↔ cfg.AsksUnverified settings) ∧
    ((o.verification settings).effective.IsOff ↔ cfg.AsksUnverified settings) ∧
    (∀ v, o.clientVerification? settings = some v → v = o.verification settings) ∧
    (o.clientVerification? settings = none →
      ∃ t, o = .authenticated (o.verification settings) t) ∧
    (∀ c, o.verification settings = .context c →
      TlsContext.replay .standard
        (compose cfg address repo settings course fs source s).tlsCalls none = some c) ∧
    (∀ cfg' address' repo' course' fs' (source' : HelperSource σ) s' o', cfg'.tls = cfg.tls →
      (compose cfg' address' repo' settings course' fs' source' s').result = .ok o' →
      o'.verification settings = o.verification settings) := by
  have hchoice : o.verification settings = cfg.verification settings :=
    verification_of_composed (h ▸ composed_compose)
  refine ⟨?_, ?_, ?_, ?_, fun c hc => replay_tlsCalls h hc, ?_⟩
  · rw [hchoice, SecurityConfig.isOff_iff_asksUnverified]
  · rw [Verification.isOff_effective, hchoice, SecurityConfig.isOff_iff_asksUnverified]
  · intro v hv
    rcases o with - | (- | c) | ⟨v', t⟩
    · exact (Option.some.inj hv).symm
    · exact (Option.some.inj hv).symm
    · exact (Option.some.inj hv).symm
    · cases hv
  · intro hv
    rcases o with - | (- | c) | ⟨v', t⟩
    · cases hv
    · cases hv
    · cases hv
    · exact ⟨t, rfl⟩
  · intro cfg' address' repo' course' fs' source' s' o' htls h'
    rw [hchoice, verification_of_composed (h' ▸ composed_compose), SecurityConfig.verification,
      SecurityConfig.verification, htls]

/-- A section that is turned off, and credentials: the settings are asked, and they want no
verification. -/
theorem verification_isOff_of_disabled :
    let cfg : SecurityConfig :=
      ⟨some { TlsConfig.empty with disabled := true }, some .empty, ""⟩
    let settings : Settings := { Settings.standard with verifyTls := false }
    let fs : Files := ⟨fun _ => .missing⟩
    let source : HelperSource Unit := .programs (fun _ s => (.timedOut, s)) none Helper.directory
    ∃ o, (compose cfg "registry.example.com" "lib/app" settings (fun _ _ => none) fs source
        ()).result = .ok o ∧
      (o.verification settings).IsOff := by
  intro cfg settings fs source
  obtain ⟨o, ho⟩ : ∃ o, (compose cfg "registry.example.com" "lib/app" settings (fun _ _ => none)
      fs source ()).result = .ok o := ⟨_, by cbv⟩
  exact ⟨o, ho, (verification_isOff_iff ho).1.mpr (.inr ⟨.inr ⟨_, rfl, rfl⟩, rfl⟩)⟩

end SendOption

/-! ## Reaching a registry without verification -/

/-- What is said of the section for certificates, and not of one in which nothing is set, is
said of one that is there. -/
theorem SecurityConfig.exists_tls_iff {cfg : SecurityConfig} {P : TlsConfig → Prop}
    (hempty : ¬P .empty) : (∃ part, cfg.tls = some part ∧ P part) ↔ P (cfg.tls.getD .empty) := by
  cases cfg.tls with
  | none => simpa using hempty
  | some part => simp

namespace Command

variable {m : Machine σ τ} {target : Target} {timeout : Seconds} {insecure : Bool} {s : σ}
  {cfg : SecurityConfig} {o : SendOption}

/-- To reach a registry, a command comes to this way to send. -/
def Reaches (m : Machine σ τ) (target : Target) (timeout : Seconds) (insecure : Bool) (s : σ)
    (o : SendOption) : Prop :=
  ∃ cfg host, configuration m target.config = .ok cfg ∧
    Registry.host target.address = .ok host ∧
    (compose m cfg host target (settings target timeout insecure) s).result = .ok o

/-- By the way to send that it comes to, the command reaches the registry. -/
theorem runPing_of_reaches (h : Reaches m target timeout insecure s o) :
    ∃ r s', ∀ t, runPing m target timeout insecure s t = reach m r target.address o s' t := by
  obtain ⟨cfg, host, hconfiguration, hhost, hchoice⟩ := h
  refine ⟨Report.titled ("Ping " ++ host),
    (compose m cfg host target (settings target timeout insecure) s).helpers, fun t => ?_⟩
  unfold runPing
  rw [hconfiguration, hhost]
  simp only [hchoice]

theorem verification_of_reaches (hload : SecurityConfig.loadFile m.files target.config = .ok cfg)
    (h : Reaches m target timeout insecure s o) :
    o.verification (settings target timeout insecure) =
      (cfg.withDefaults m.environment).verification (settings target timeout insecure) := by
  obtain ⟨cfg', host, hconfiguration, -, hchoice⟩ := h
  rw [configuration, hload] at hconfiguration
  rw [← Except.ok.inj hconfiguration] at hchoice
  exact SendOption.verification_of_composed (hchoice ▸ SendOption.composed_compose)

/-- **What the option to go without verification does.**  Where it is given and there is a way to
send, the registry is reached by that way.  It goes without verification exactly where the
document has a section for certificates that is turned off or goes without verification by
itself.  The option makes a difference exactly where the section is turned off. -/
theorem reaches_unverified_iff (hload : SecurityConfig.loadFile m.files target.config = .ok cfg)
    (h : Reaches m target timeout true s o) :
    (∃ r s', ∀ t, runPing m target timeout true s t = reach m r target.address o s' t) ∧
    ((o.verification (settings target timeout true)).effective.verifies = false ↔
      ∃ part, cfg.tls = some part ∧ (part.disabled = true ∨ part.skipVerify = true)) ∧
    (∀ o', Reaches m target timeout false s o' →
      (o'.verification (settings target timeout false) ≠
          o.verification (settings target timeout true) ↔
        ∃ part, cfg.tls = some part ∧ part.disabled = true)) := by
  obtain ⟨part, htls, hdisabled, hskip, -⟩ := cfg.withDefaults_tls m.environment
  have hverification (insecure : Bool) :
      (cfg.withDefaults m.environment).verification (settings target timeout insecure) =
        if part.disabled then .flag (!insecure)
        else .context (if part.skipVerify then .lax else .standard) :=
    SecurityConfig.verification_of_tls htls
  refine ⟨runPing_of_reaches h, ?_, fun o' h' => ?_⟩
  · rw [SecurityConfig.exists_tls_iff (by decide), ← hdisabled, ← hskip,
      verification_of_reaches hload h, hverification]
    cases part.disabled <;> cases part.skipVerify <;> decide
  · rw [SecurityConfig.exists_tls_iff (by decide), ← hdisabled, verification_of_reaches hload h,
      verification_of_reaches hload h', hverification, hverification]
    cases part.disabled <;> simp

/-- A machine on which a configuration is stored, and no call for certificates is refused. -/
def storing (cfg : SecurityConfig) : Machine Unit Unit where
  environment _ := none
  files := ⟨fun path =>
    if path = "security.json" then .file (Text.Utf8.encodeString (Json.render cfg.toJson))
    else .missing⟩
  certificates _ _ := none
  launcher _ s := (.timedOut, s)
  peer := ⟨fun _ s => (.ok ⟨200, [], .ok []⟩, s), id⟩

/-- A registry that is reached with the stored configuration. -/
def storedTarget : Target := ⟨"security.json", "registry.example.com", "lib/app", none⟩

theorem loadFile_storing (cfg : SecurityConfig) :
    SecurityConfig.loadFile (storing cfg).files storedTarget.config = .ok cfg := by
  have hplain : SecurityConfig.plainPath "security.json" = "security.json" := by decide +kernel
  refine SecurityConfig.loadFile_of_stored ?_ ?_ ?_
  · rw [storedTarget, hplain]
    decide +kernel
  · rw [storedTarget, hplain]
    decide +kernel
  · rw [storedTarget, hplain]
    rfl

theorem reaches_storing {cfg : SecurityConfig} {timeout : Seconds} {insecure : Bool}
    {o : SendOption}
    (h : (compose (storing cfg) (cfg.withDefaults fun _ => none) "registry.example.com" storedTarget
      (settings storedTarget timeout insecure) ()).result = .ok o) :
    Reaches (storing cfg) storedTarget timeout insecure () o := by
  have hhost : Registry.host "registry.example.com" = .ok "registry.example.com" := by
    decide +kernel
  refine ⟨_, _, ?_, hhost, h⟩
  rw [configuration, loadFile_storing]
  rfl

/-- A section that is turned off: the option is what counts. -/
theorem reaches_unverified_of_disabled :
    let cfg : SecurityConfig := ⟨some { TlsConfig.empty with disabled := true }, none, ""⟩
    ∃ o, SecurityConfig.loadFile (storing cfg).files storedTarget.config = .ok cfg ∧
      Reaches (storing cfg) storedTarget (.whole 30) true () o ∧
      (o.verification (settings storedTarget (.whole 30) true)).effective.verifies = false := by
  intro cfg
  have hreaches : Reaches (storing cfg) storedTarget (.whole 30) true () (.tls none) :=
    reaches_storing rfl
  obtain ⟨-, hunverified, -⟩ := reaches_unverified_iff (loadFile_storing cfg) hreaches
  exact ⟨_, loadFile_storing cfg, hreaches, hunverified.mpr ⟨_, rfl, .inl rfl⟩⟩

/-- **A document in which nothing is set.**  The registry is to be reached without verification,
and the way to send verifies all the same. -/
theorem reaches_verifying_of_empty :
    ∃ o, SecurityConfig.loadFile (storing .empty).files storedTarget.config = .ok .empty ∧
      Reaches (storing .empty) storedTarget (.whole 30) true () o ∧
      (o.verification (settings storedTarget (.whole 30) true)).effective.verifies = true := by
  have hreaches : Reaches (storing .empty) storedTarget (.whole 30) true ()
      (.tls (some .standard)) := reaches_storing rfl
  exact ⟨_, loadFile_storing .empty, hreaches, rfl⟩

end Command
end RegistryAuth
