import Mathlib
import RegistryAuth.Command.Run
import RegistryAuth.Proofs.Tls.Context

/-!
# The calls for a context

The calls that are made for a context follow one plan (`TlsConfig.plan`): a new context, the
authorities as they are listed, the client's own certificate, and the two checks that are dropped,
if they are to be.  How each call is answered is for a course of calls to say, which may refuse
any of the loads.

`TlsConfig.Built` lists how it can end, and `TlsConfig.built_buildAlong` says that it ends so.  A
load is refused, and nothing is called behind it; or there is a key without a certificate, which
is seen behind the authorities; or the whole plan is carried out.  What the trace of the calls
tells is read off from this (`TlsConfig.buildAlong_trace`).

## Why the checks are dropped last

All loads stand in front of the two calls that drop the checks (`TlsConfig.loads`), and every
failure comes with a load or in front of one.  So a build that fails has dropped nothing
(`TlsConfig.not_drops_of_mem_loads`).
-/

namespace RegistryAuth

/-! ## Courses of calls -/

/-- The call drops one of the checks. -/
def TlsCall.Drops (call : TlsCall) : Prop := call = .dropHostnameCheck ∨ call = .dropVerification

/-- A refusal is reported, and the path of the call is in its words. -/
theorem TlsCall.names_of_words? {call : TlsCall} {words : TlsFailure → TlsError}
    (h : call.words? = some words) (f : TlsFailure) :
    (words f).isReported = true ∧
      ∃ path, call.paths.head? = some path ∧ path.toList <:+: (words f).message.toList := by
  have hinfix (opening path rest : String) :
      path.toList <:+: (opening ++ path ++ ": " ++ rest).toList := by
    simp only [String.toList_append, List.append_assoc]
    exact List.infix_append' _ _ _
  cases call with
  | verifyDirectory path | verifyFile path =>
    obtain rfl := Option.some.inj h
    exact ⟨rfl, path, rfl, hinfix _ _ _⟩
  | certChain cert key passphrase =>
    obtain rfl := Option.some.inj h
    exact ⟨rfl, cert, rfl, hinfix _ _ _⟩
  | createContext | dropHostnameCheck | dropVerification => cases h

/-- What loads something drops no check. -/
theorem TlsCall.not_drops_of_isSome {call : TlsCall} (h : call.words?.isSome) : ¬call.Drops := by
  rintro (rfl | rfl) <;> cases h

/-- Only the operating system and the library refuse: every path can be written, and no
passphrase is too long. -/
def TlsCourse.IsWritable (course : TlsCourse) : Prop :=
  ∀ made call f, course made call = some f → f.isRefusal = true

namespace TlsConfig

variable {cfg : TlsConfig} {course : TlsCourse} {fs : Files} {passphrase : Option String}

/-! ## The plan -/

/-- The calls up to the last thing that is loaded. -/
def loads (cfg : TlsConfig) (fs : Files) (passphrase : Option String) : List TlsCall :=
  cfg.openingCalls fs ++ if cfg.certPath = "" then [] else [cfg.chainCall passphrase]

/-- All calls for a context. -/
def plan (cfg : TlsConfig) (fs : Files) (passphrase : Option String) : List TlsCall :=
  cfg.loads fs passphrase ++ cfg.drops

/-- The authorities are what stands between the colons, less what is empty. -/
theorem authorityPaths_eq {value : String} {pieces : List (List Char)} (hne : pieces ≠ [])
    (hcolon : ∀ piece ∈ pieces, ':' ∉ piece) (hvalue : value.toList = [':'].intercalate pieces) :
    authorityPaths value = (pieces.filter (· ≠ [])).map String.ofList := by
  rw [authorityPaths, hvalue, Text.splitOn_intercalate hne hcolon]
  congr 2
  funext piece
  cases piece <;> rfl

theorem words?_of_mem_drops {call : TlsCall} (h : call ∈ cfg.drops) : call.words? = none := by
  rw [drops] at h
  split at h
  · rcases List.mem_pair.mp h with rfl | rfl <;> rfl
  · cases h

/-- Up to the last load, no check is dropped. -/
theorem not_drops_of_mem_loads {call : TlsCall} (h : call ∈ cfg.loads fs passphrase) :
    ¬call.Drops := by
  rw [loads, openingCalls, List.mem_append, List.mem_cons, List.mem_map] at h
  rcases h with (rfl | ⟨path, -, rfl⟩) | h
  · rintro (h | h) <;> cases h
  · exact TlsCall.not_drops_of_isSome (by rw [words?_authorityCall]; rfl)
  · split at h
    · cases h
    · rw [List.mem_singleton.mp h]
      exact TlsCall.not_drops_of_isSome rfl

/-! ## How it ends -/

/-- The passphrase: none where no file is named for it, and else the text of a file in UTF-8, with
newlines for all line ends and without the blanks around it. -/
inductive HasPassphrase (cfg : TlsConfig) (fs : Files) : Option String → Prop
  | unnamed (h : cfg.passphrasePath = "") : HasPassphrase cfg fs none
  | file {text : List Char} (named : cfg.passphrasePath ≠ "")
      (writable : Files.hasNul cfg.passphrasePath = false)
      (content : fs.state cfg.passphrasePath = .file (Text.Utf8.encode text)) :
      HasPassphrase cfg fs (some (String.ofList (Text.trim (Text.unifyNewlines text))))

theorem HasPassphrase.readPassphrase_eq (h : cfg.HasPassphrase fs passphrase) :
    readPassphrase fs cfg.passphrasePath = .ok passphrase := by
  cases h with
  | unnamed h => rw [readPassphrase, h]; rfl
  | @file text named writable content =>
    have hempty : cfg.passphrasePath.isEmpty = false := by simpa using named
    have hread : fs.readLines cfg.passphrasePath = .ok (Text.unifyNewlines text) := by
      rw [Files.readLines, Files.readExact_of_file writable content, Text.Utf8.decode_encode]
      rfl
    simp only [readPassphrase, hempty, hread, Bool.false_eq_true, if_false]

/-- How the making of a context can end: the calls that were made and what has come of them. -/
inductive Built (cfg : TlsConfig) (course : TlsCourse) (fs : Files) (passphrase : Option String) :
    TlsBuild → Prop
  | refused {before after : List TlsCall} {call : TlsCall} {words : TlsFailure → TlsError}
      {f : TlsFailure} (hplan : cfg.loads fs passphrase = before ++ call :: after)
      (accepted : course.Accepts before) (load : call.words? = some words)
      (refusal : course before call = some f) :
      Built cfg course fs passphrase ⟨before ++ [call], .error (words f)⟩
  | keyWithoutCert (noCert : cfg.certPath = "") (key : cfg.keyPath ≠ "")
      (accepted : course.Accepts (cfg.openingCalls fs)) :
      Built cfg course fs passphrase ⟨cfg.openingCalls fs, .error .keyWithoutCert⟩
  | complete (cert : cfg.certPath = "" → cfg.keyPath = "")
      (accepted : course.Accepts (cfg.loads fs passphrase)) :
      Built cfg course fs passphrase
        ⟨cfg.plan fs passphrase, .ok (some (if cfg.skipVerify then .lax else .standard))⟩

theorem reported_of_isWritable (hcourse : course.IsWritable) {made : List TlsCall} {call : TlsCall}
    {f : TlsFailure} (h : course made call = some f) (words : TlsFailure → TlsError) :
    reported words f = words f := by
  have hrefusal : f.isRefusal = true := hcourse made call f h
  cases f with
  | system | library => rfl
  | nulInPath | longPassphrase => cases hrefusal

theorem loads_of_no_cert (passphrase : Option String) (h : cfg.certPath = "") :
    cfg.loads fs passphrase = cfg.openingCalls fs := by
  rw [loads, if_pos h, List.append_nil]

theorem loads_of_cert (h : cfg.certPath ≠ "") :
    cfg.loads fs passphrase = cfg.openingCalls fs ++ [cfg.chainCall passphrase] := by
  rw [loads, if_neg h]

/-- What is called for the client's own certificate. -/
theorem openingCalls_append_loadClient {lib : TlsLibrary}
    (hpassphrase : cfg.certPath ≠ "" → cfg.HasPassphrase fs passphrase) :
    cfg.openingCalls fs ++ (cfg.loadClient lib fs).1 = cfg.loads fs passphrase := by
  by_cases hcert : cfg.certPath = ""
  · rw [loadClient_eq_of_no_cert hcert, loads_of_no_cert _ hcert, List.append_nil]
  · rw [loadClient_eq_of_cert hcert, (hpassphrase hcert).readPassphrase_eq, loads_of_cert hcert]

/-- **How the making of a context ends.** -/
theorem built_buildAlong (henabled : cfg.disabled = false) (hcourse : course.IsWritable)
    (hpassphrase : cfg.certPath ≠ "" → cfg.HasPassphrase fs passphrase) :
    Built cfg course fs passphrase (cfg.buildAlong course fs) := by
  have hmade : Made cfg course fs (cfg.buildAlong course fs) := made_buildAlong henabled
  generalize cfg.buildAlong course fs = run at hmade
  cases hmade with
  | @authority front back path f hpaths accepted refused =>
    rw [reported_of_isWritable hcourse refused]
    have hloads : cfg.loads fs passphrase =
        (.createContext :: front.map (authorityCall fs)) ++ authorityCall fs path ::
          (back.map (authorityCall fs) ++
            if cfg.certPath = "" then [] else [cfg.chainCall passphrase]) := by
      rw [loads, openingCalls, hpaths]
      simp
    exact .refused hloads accepted (words?_authorityCall path) refused
  | @client e accepted failure =>
    by_cases hcert : cfg.certPath = ""
    · rw [loadClient_eq_of_no_cert hcert] at failure ⊢
      rw [List.append_nil]
      by_cases hkey : cfg.keyPath = ""
      · rw [if_pos hkey] at failure
        cases failure
      · rw [if_neg hkey] at failure
        obtain rfl := Option.some.inj failure
        exact .keyWithoutCert hcert hkey accepted
    · rw [loadClient_eq_of_cert hcert, (hpassphrase hcert).readPassphrase_eq] at failure ⊢
      obtain ⟨f, hf, rfl⟩ := Option.map_eq_some_iff.mp failure
      rw [reported_of_isWritable hcourse hf]
      exact .refused (loads_of_cert hcert) accepted rfl hf
  | complete accepted loaded =>
    rw [openingCalls_append_loadClient hpassphrase]
    by_cases hcert : cfg.certPath = ""
    · rw [loadClient_eq_of_no_cert hcert] at loaded
      refine .complete (fun _ => by simpa using loaded) ?_
      rwa [loads_of_no_cert _ hcert]
    · rw [loadClient_eq_of_cert hcert, (hpassphrase hcert).readPassphrase_eq] at loaded
      refine .complete (fun h => absurd h hcert) ?_
      rw [loads_of_cert hcert]
      exact TlsCourse.accepts_append_singleton.mpr
        ⟨accepted, fun _ => Option.map_eq_none_iff.mp loaded⟩

/-! ## The trace -/

theorem Built.calls_prefix {run : TlsBuild} (h : Built cfg course fs passphrase run) :
    run.calls <+: cfg.plan fs passphrase := by
  cases h with
  | @refused before after call _ _ hloads =>
    exact ⟨after ++ cfg.drops, by rw [plan, hloads]; simp⟩
  | keyWithoutCert =>
    rw [plan, loads, List.append_assoc]
    exact List.prefix_append _ _
  | complete => exact List.prefix_rfl

theorem accepts_plan_iff :
    course.Accepts (cfg.plan fs passphrase) ↔ course.Accepts (cfg.loads fs passphrase) :=
  TlsCourse.accepts_append_of_no_loads fun _ => words?_of_mem_drops

/-- There is a context exactly where no load is refused and no key lacks its certificate. -/
theorem Built.exists_context_iff {run : TlsBuild} (h : Built cfg course fs passphrase run) :
    (∃ c, run.result = .ok (some c)) ↔
      course.Accepts (cfg.plan fs passphrase) ∧ (cfg.certPath = "" → cfg.keyPath = "") := by
  rw [accepts_plan_iff]
  cases h with
  | @refused before after call words f hloads accepted load refusal =>
    refine iff_of_false (by simp) fun ⟨haccepts, _⟩ => ?_
    have hnone := haccepts before call after hloads (by rw [load]; rfl)
    rw [refusal] at hnone
    cases hnone
  | keyWithoutCert noCert key =>
    exact iff_of_false (by simp) fun ⟨_, hcert⟩ => key (hcert noCert)
  | complete cert accepted => exact iff_of_true ⟨_, rfl⟩ ⟨accepted, cert⟩

/-- **The trace of a build.**  The calls that are made for a context are the plan as far as it
goes:

* a context is given exactly where no load of the plan is refused and there is no key without a
  certificate, and then the whole plan has been called;
* else the trace ends with the first load that is refused, and the failure is its refusal, in words
  that name its path; or it ends behind the authorities, none of them refused, where a key has no
  certificate; and no check has been dropped.

The authorities of the plan are what stands between the colons of their path, less what is
empty. -/
theorem buildAlong_trace (henabled : cfg.disabled = false) (hcourse : course.IsWritable)
    (hpassphrase : cfg.certPath ≠ "" → cfg.HasPassphrase fs passphrase) :
    (cfg.buildAlong course fs).calls <+: cfg.plan fs passphrase ∧
    ((∃ c, (cfg.buildAlong course fs).result = .ok (some c)) ↔
      course.Accepts (cfg.plan fs passphrase) ∧ (cfg.certPath = "" → cfg.keyPath = "")) ∧
    (∀ c, (cfg.buildAlong course fs).result = .ok c →
      (cfg.buildAlong course fs).calls = cfg.plan fs passphrase ∧
        c = some (if cfg.skipVerify then .lax else .standard)) ∧
    (∀ e, (cfg.buildAlong course fs).result = .error e →
      e.isReported = true ∧ (∀ call ∈ (cfg.buildAlong course fs).calls, ¬call.Drops) ∧
      ((∃ before call words f, (cfg.buildAlong course fs).calls = before ++ [call] ∧
          course.Accepts before ∧ course before call = some f ∧ call.words? = some words ∧
          e = words f ∧
          ∃ path, call.paths.head? = some path ∧ path.toList <:+: e.message.toList) ∨
        (cfg.certPath = "" ∧ cfg.keyPath ≠ "" ∧ e = .keyWithoutCert ∧
          (cfg.buildAlong course fs).calls = cfg.openingCalls fs ∧
          course.Accepts (cfg.openingCalls fs)))) ∧
    ∀ pieces : List (List Char), pieces ≠ [] → (∀ piece ∈ pieces, ':' ∉ piece) →
      cfg.caPath.toList = [':'].intercalate pieces →
      cfg.openingCalls fs = .createContext :: ((pieces.filter (· ≠ [])).map String.ofList).map
        fun path => if fs.isDirectory path then .verifyDirectory path else .verifyFile path := by
  have hbuilt : Built cfg course fs passphrase (cfg.buildAlong course fs) :=
    built_buildAlong henabled hcourse hpassphrase
  refine ⟨hbuilt.calls_prefix, hbuilt.exists_context_iff, ?_, ?_, ?_⟩
  · intro c hc
    generalize cfg.buildAlong course fs = run at hbuilt hc
    cases hbuilt with
    | complete => exact ⟨rfl, (Except.ok.inj hc).symm⟩
    | refused | keyWithoutCert => cases hc
  · intro e he
    generalize cfg.buildAlong course fs = run at hbuilt he
    cases hbuilt with
    | @refused before after call words f hloads accepted load refusal =>
      obtain rfl := Except.error.inj he
      obtain ⟨hreported, hnamed⟩ := TlsCall.names_of_words? load f
      refine ⟨hreported, fun made hmade => ?_, .inl ⟨before, call, words, f, rfl, accepted, refusal,
        load, rfl, hnamed⟩⟩
      have hload : made ∈ cfg.loads fs passphrase := by
        rw [hloads, List.append_cons]
        exact List.mem_append_left _ hmade
      exact not_drops_of_mem_loads hload
    | keyWithoutCert noCert key accepted =>
      obtain rfl := Except.error.inj he
      refine ⟨rfl, fun made hmade => ?_, .inr ⟨noCert, key, rfl, rfl, accepted⟩⟩
      rw [← loads_of_no_cert passphrase noCert] at hmade
      exact not_drops_of_mem_loads hmade
    | complete => cases he
  · intro pieces hne hcolon hpieces
    rw [openingCalls, authorityPaths_eq hne hcolon hpieces]
    rfl

/-- A directory is listed twice, and refused when it is loaded for the second time. -/
theorem buildAlong_trace_of_second_refusal :
    let cfg : TlsConfig :=
      { TlsConfig.empty with caPath := "certs::certs", certPath := "cert.pem",
                             passphrasePath := "pass", skipVerify := true }
    let course : TlsCourse := fun made _ =>
      if made = [.createContext, .verifyDirectory "certs"] then some (.library "unknown") else none
    let fs : Files := ⟨fun path =>
      if path = "certs" then .directory
      else if path = "pass" then .file (Text.Utf8.encode " ä\r\n".toList) else .missing⟩
    cfg.disabled = false ∧ course.IsWritable ∧ cfg.HasPassphrase fs (some "ä") ∧
      (cfg.buildAlong course fs).calls =
        [.createContext, .verifyDirectory "certs", .verifyDirectory "certs"] ∧
      (cfg.buildAlong course fs).calls <+: cfg.plan fs (some "ä") ∧
      ∀ e, (cfg.buildAlong course fs).result = .error e → e.isReported = true := by
  intro cfg course fs
  have hcourse : course.IsWritable := by
    intro made call f hf
    obtain ⟨-, hf⟩ := Option.ite_none_right_eq_some.mp hf
    rw [← Option.some.inj hf]
    rfl
  have hpassphrase : cfg.HasPassphrase fs (some "ä") := by
    have htrimmed : String.ofList (Text.trim (Text.unifyNewlines " ä\r\n".toList)) = "ä" := by
      decide +kernel
    rw [← htrimmed]
    exact .file (by decide) (by decide) rfl
  have hpaths : authorityPaths cfg.caPath = ["certs", "certs"] := by decide +kernel
  obtain ⟨hplan, -, -, hfailure, -⟩ :=
    buildAlong_trace (show cfg.disabled = false from rfl) hcourse fun _ => hpassphrase
  refine ⟨rfl, hcourse, hpassphrase, ?_, hplan, fun e he => (hfailure e he).1⟩
  cbv

end TlsConfig
end RegistryAuth
