import RegistryAuth.Proofs.Files.Reading
import RegistryAuth.Proofs.Text.Cut
import RegistryAuth.Proofs.Text.Utf8
import RegistryAuth.Tls.Context

/-!
# How a context is made

A context is made from the section for certificates, what the course of calls answers, and what
stands at a few paths (`TlsConfig.paths`): nothing else on disk plays a part in it
(`TlsConfig.buildAlong_congr`).  The answers may in turn rest on the files that the calls name, and
if these are the same, the context is (`TlsConfig.buildAlong_agree`).

`TlsConfig.Made` lists how the making ends: an authority is refused, or the client's own
certificate is not loaded, or there is a context.  Behind each load that is accepted
(`TlsCourse.Accepts`) the next is made, and nothing is called behind a failure.
-/

namespace RegistryAuth

/-! ## Calls and the files they look at -/

namespace TlsCall

/-- The paths at which a call looks. -/
def paths : TlsCall → List String
  | .verifyDirectory path | .verifyFile path => [path]
  | .certChain cert key _ => cert :: key.toList
  | _ => []

/-- The files that the call looks at are the same. -/
def SameAt (fs fs' : Files) (call : TlsCall) : Prop :=
  ∀ path ∈ call.paths, fs'.state path = fs.state path

/-- The words for a refusal, of a call that loads something: they name its path. -/
def words? : TlsCall → Option (TlsFailure → TlsError)
  | .verifyDirectory path | .verifyFile path => some (.authorities path)
  | .certChain cert _ _ => some (.clientCert cert)
  | _ => none

end TlsCall

/-- A file opens a block if a first line in ASCII does. -/
theorem TlsLibrary.hasBlock_of_line {name : String} {line : List Char}
    (hascii : ∀ c ∈ line, c.toNat < 128) (hline : '\n' ∉ line)
    (hopens : ((Text.dropFront? "-----BEGIN ".toList line).isSome &&
      (Text.dropFront? (name ++ "-----").toList.reverse
        (Text.trimBoth (fun c => c.toNat ≤ 32) line).reverse).isSome) = true) (rest : List Char) :
    hasBlock name (Text.Utf8.encode (line ++ '\n' :: rest)) = true := by
  have hbytes : (Text.Utf8.encode (line ++ '\n' :: rest)).map (fun b => Char.ofNat b.toNat) =
      line ++ '\n' :: (Text.Utf8.encode rest).map (fun b => Char.ofNat b.toNat) := by
    rw [Text.Utf8.encode, List.flatMap_append, List.map_append, ← Text.Utf8.encode,
      Text.Utf8.map_encode_of_ascii hascii, List.flatMap_cons, ← Text.Utf8.encode]
    rfl
  rw [hasBlock, hbytes, Text.splitOn_append hline, List.any_cons, hopens, Bool.true_or]

namespace TlsCourse

variable {course : TlsCourse} {calls : List TlsCall} {call : TlsCall}

/-- Calls are answered in the same way where they look, and those before them have looked, at
files that are the same. -/
def AgreeOn (course course' : TlsCourse) (fs fs' : Files) : Prop :=
  ∀ made call, (∀ earlier ∈ made, TlsCall.SameAt fs fs' earlier) → call.SameAt fs fs' →
    course' made call = course made call

/-- The library that looks at the files that are named looks at no others. -/
theorem agreeOn_overFiles (fs fs' : Files) : AgreeOn (overFiles fs) (overFiles fs') fs fs' := by
  have hneed {name text path : String} (h : fs'.state path = fs.state path) :
      TlsLibrary.needBlock fs' name text path = TlsLibrary.needBlock fs name text path := by
    simp only [TlsLibrary.needBlock, TlsLibrary.openPem, Files.openAt, h]
  intro made call _ hpaths
  cases call with
  | verifyFile path => exact hneed (hpaths path (by simp [TlsCall.paths]))
  | certChain cert key passphrase =>
    have hcert := hpaths cert (by simp [TlsCall.paths])
    have hkey : fs'.state (key.getD cert) = fs.state (key.getD cert) := by
      cases key with
      | none => exact hcert
      | some key => exact hpaths key (by simp [TlsCall.paths])
    rw [overFiles, overFiles, TlsLibrary.overFiles, TlsLibrary.overFiles, hneed hcert, hneed hkey]
  | _ => rfl

/-- None of the calls that load something is refused, each at its place. -/
def Accepts (course : TlsCourse) (calls : List TlsCall) : Prop :=
  ∀ before call after, calls = before ++ call :: after → call.words?.isSome →
    course before call = none

theorem Accepts.of_append {calls' : List TlsCall} (h : course.Accepts (calls ++ calls')) :
    course.Accepts calls := by
  intro before call after hcalls hload
  exact h before call (after ++ calls') (by rw [hcalls]; simp) hload

theorem accepts_append_singleton :
    course.Accepts (calls ++ [call]) ↔
      course.Accepts calls ∧ (call.words?.isSome → course calls call = none) := by
  refine ⟨fun h => ⟨h.of_append, h calls call [] rfl⟩, fun ⟨hcalls, hcall⟩ => ?_⟩
  intro before call' after heq hload
  -- the call is the last one, or one of those before it
  rcases List.eq_nil_or_concat after with rfl | ⟨after, last, rfl⟩
  · obtain ⟨rfl, hlast⟩ := List.append_inj' heq rfl
    obtain rfl := (List.cons.inj hlast).1
    exact hcall hload
  · rw [List.concat_eq_append, ← List.cons_append, ← List.append_assoc] at heq
    exact hcalls before call' after (List.append_inj' heq rfl).1 hload

/-- Calls that load nothing are not refused. -/
theorem accepts_append_of_no_loads {others : List TlsCall}
    (h : ∀ call ∈ others, call.words? = none) :
    course.Accepts (calls ++ others) ↔ course.Accepts calls := by
  induction others generalizing calls with
  | nil => rw [List.append_nil]
  | cons call others ih =>
    obtain ⟨hcall, hothers⟩ := List.forall_mem_cons.mp h
    rw [List.append_cons, ih hothers, accepts_append_singleton, hcall]
    simp

theorem accepts_createContext : course.Accepts [.createContext] := by
  have h : course.Accepts ([] ++ [.createContext]) :=
    (accepts_append_of_no_loads (by simp [TlsCall.words?])).mpr
      (fun before _ _ h => by cases before <;> cases h)
  exact h

end TlsCourse

namespace TlsConfig

variable {cfg : TlsConfig} {course course' : TlsCourse} {lib lib' : TlsLibrary} {fs fs' : Files}
  {made : List TlsCall} {listed : List String}

/-! ## The paths of a section -/

/-- The paths at which the making of a context looks by itself. -/
def paths (cfg : TlsConfig) : List String := cfg.passphrasePath :: authorityPaths cfg.caPath

/-- All the paths that the section names. -/
def files (cfg : TlsConfig) : List String :=
  cfg.certPath :: cfg.keyPath :: cfg.paths

/-- The call that loads the client's certificate. -/
def chainCall (cfg : TlsConfig) (passphrase : Option String) : TlsCall :=
  .certChain cfg.certPath (if cfg.keyPath.isEmpty then none else some cfg.keyPath) passphrase

theorem authorityCall_congr {path : String} (h : fs'.state path = fs.state path) :
    authorityCall fs' path = authorityCall fs path := by
  rw [authorityCall, authorityCall, Files.isDirectory_congr h]

theorem paths_authorityCall (path : String) : (authorityCall fs path).paths = [path] := by
  rw [authorityCall]
  split <;> rfl

theorem words?_authorityCall (path : String) :
    (authorityCall fs path).words? = some (.authorities path) := by
  rw [authorityCall]
  split <;> rfl

theorem sameAt_authorityCall {path : String} (h : fs'.state path = fs.state path) :
    (authorityCall fs path).SameAt fs fs' := by
  rw [TlsCall.SameAt, paths_authorityCall, List.forall_mem_singleton]
  exact h

/-! ## Files and courses that agree -/

theorem loadAuthoritiesAlong_congr (h : ∀ path ∈ listed, fs'.state path = fs.state path) :
    loadAuthoritiesAlong course fs' made listed = loadAuthoritiesAlong course fs made listed := by
  induction listed generalizing made with
  | nil => rfl
  | cons path listed ih =>
    obtain ⟨hpath, hlisted⟩ := List.forall_mem_cons.mp h
    rw [loadAuthoritiesAlong, loadAuthoritiesAlong, authorityCall_congr hpath, ih hlisted]

theorem loadClient_congr (h : fs'.state cfg.passphrasePath = fs.state cfg.passphrasePath) :
    cfg.loadClient lib fs' = cfg.loadClient lib fs := by
  have hread : readPassphrase fs' cfg.passphrasePath = readPassphrase fs cfg.passphrasePath := by
    rw [readPassphrase, readPassphrase, Files.readLines_congr h]
  rw [loadClient, loadClient, hread]

/-- What stands at other paths plays no part in a context. -/
theorem buildAlong_congr (h : ∀ path ∈ cfg.paths, fs'.state path = fs.state path) :
    cfg.buildAlong course fs' = cfg.buildAlong course fs := by
  obtain ⟨hpassphrase, hauthorities⟩ := List.forall_mem_cons.mp h
  simp only [buildAlong, loadAuthoritiesAlong_congr hauthorities, loadClient_congr hpassphrase]

/-- No calls are made for authorities but those that load them, in their order. -/
theorem prefix_loadAuthoritiesAlong (course : TlsCourse) (fs : Files) (made : List TlsCall)
    (listed : List String) :
    (loadAuthoritiesAlong course fs made listed).1 <+: listed.map (authorityCall fs) := by
  induction listed generalizing made with
  | nil => exact List.prefix_rfl
  | cons path listed ih =>
    rw [loadAuthoritiesAlong, List.map_cons]
    cases course made (authorityCall fs path) with
    | some f => exact List.prefix_append [_] _
    | none => exact List.prefix_cons_inj _ |>.mpr (ih _)

theorem loadAuthoritiesAlong_agree (hcourse : course.AgreeOn course' fs fs')
    (hmade : ∀ earlier ∈ made, TlsCall.SameAt fs fs' earlier)
    (h : ∀ path ∈ listed, fs'.state path = fs.state path) :
    loadAuthoritiesAlong course' fs made listed = loadAuthoritiesAlong course fs made listed := by
  induction listed generalizing made with
  | nil => rfl
  | cons path listed ih =>
    obtain ⟨hpath, hlisted⟩ := List.forall_mem_cons.mp h
    have hcall : (authorityCall fs path).SameAt fs fs' := sameAt_authorityCall hpath
    have hnext : ∀ earlier ∈ made ++ [authorityCall fs path], TlsCall.SameAt fs fs' earlier :=
      List.forall_mem_append.mpr ⟨hmade, List.forall_mem_singleton.mpr hcall⟩
    rw [loadAuthoritiesAlong, loadAuthoritiesAlong, hcourse _ _ hmade hcall, ih hnext hlisted]

theorem loadClient_agree
    (h : ∀ passphrase, lib' (cfg.chainCall passphrase) = lib (cfg.chainCall passphrase)) :
    cfg.loadClient lib' fs = cfg.loadClient lib fs := by
  simp only [chainCall] at h
  simp only [loadClient, h]

/-- Of courses that agree, the same context comes, as long as the files that the section names
are the same. -/
theorem buildAlong_agree (hcourse : course.AgreeOn course' fs fs')
    (h : ∀ path ∈ cfg.files, fs'.state path = fs.state path) :
    cfg.buildAlong course' fs' = cfg.buildAlong course fs := by
  obtain ⟨hcert, hrest⟩ := List.forall_mem_cons.mp h
  obtain ⟨hkey, hpaths⟩ := List.forall_mem_cons.mp hrest
  obtain ⟨-, hauthorities⟩ := List.forall_mem_cons.mp hpaths
  have hcreate : TlsCall.createContext.SameAt fs fs' := nofun
  have hchain (passphrase : Option String) : (cfg.chainCall passphrase).SameAt fs fs' := by
    refine List.forall_mem_cons.mpr ⟨hcert, fun path hpath => ?_⟩
    split at hpath
    · cases hpath
    · rw [List.mem_singleton.mp hpath, hkey]
  have hloads : ∀ call ∈ .createContext ::
      (loadAuthoritiesAlong course fs [.createContext] (authorityPaths cfg.caPath)).1,
      TlsCall.SameAt fs fs' call := by
    refine List.forall_mem_cons.mpr ⟨hcreate, fun call hcall => ?_⟩
    obtain ⟨path, hpath, rfl⟩ :=
      List.mem_map.mp ((prefix_loadAuthoritiesAlong _ _ _ _).subset hcall)
    exact sameAt_authorityCall (hauthorities path hpath)
  rw [buildAlong_congr hpaths]
  simp only [buildAlong]
  rw [loadAuthoritiesAlong_agree hcourse (List.forall_mem_singleton.mpr hcreate) hauthorities,
    loadClient_agree fun passphrase => hcourse _ _ hloads (hchain passphrase)]

/-! ## How the making ends -/

/-- The calls up to the last authority. -/
def openingCalls (cfg : TlsConfig) (fs : Files) : List TlsCall :=
  .createContext :: (authorityPaths cfg.caPath).map (authorityCall fs)

/-- The calls that drop the checks, where they are to be dropped. -/
def drops (cfg : TlsConfig) : List TlsCall :=
  if cfg.skipVerify then [.dropHostnameCheck, .dropVerification] else []

theorem loadAuthoritiesAlong_of_accepts
    (h : course.Accepts (made ++ listed.map (authorityCall fs))) :
    loadAuthoritiesAlong course fs made listed = (listed.map (authorityCall fs), none) := by
  induction listed generalizing made with
  | nil => rfl
  | cons path listed ih =>
    rw [List.map_cons, List.append_cons] at h
    have hpath := (TlsCourse.accepts_append_singleton.mp h.of_append).2
      (by rw [words?_authorityCall]; rfl)
    rw [loadAuthoritiesAlong]
    simp only [hpath, ih h, List.map_cons]

theorem loadAuthoritiesAlong_of_refusal {front back : List String} {path : String}
    {f : TlsFailure} (hfront : course.Accepts (made ++ front.map (authorityCall fs)))
    (hpath : course (made ++ front.map (authorityCall fs)) (authorityCall fs path) = some f) :
    loadAuthoritiesAlong course fs made (front ++ path :: back) =
      (front.map (authorityCall fs) ++ [authorityCall fs path],
        some (reported (.authorities path) f)) := by
  induction front generalizing made with
  | nil =>
    rw [List.map_nil, List.append_nil] at hpath
    simp only [List.nil_append, loadAuthoritiesAlong, hpath, List.map_nil]
  | cons path' front ih =>
    rw [List.map_cons, List.append_cons] at hfront hpath
    have hpath' := (TlsCourse.accepts_append_singleton.mp hfront.of_append).2
      (by rw [words?_authorityCall]; rfl)
    rw [List.cons_append, loadAuthoritiesAlong]
    simp only [hpath', ih hfront hpath, List.map_cons, List.cons_append]

/-- The authorities are all accepted, or there is a first one that is refused. -/
theorem accepts_or_refused (fs : Files) (hmade : course.Accepts made) (listed : List String) :
    course.Accepts (made ++ listed.map (authorityCall fs)) ∨
      ∃ front path back f, listed = front ++ path :: back ∧
        course.Accepts (made ++ front.map (authorityCall fs)) ∧
        course (made ++ front.map (authorityCall fs)) (authorityCall fs path) = some f := by
  induction listed generalizing made with
  | nil => exact .inl (by simpa using hmade)
  | cons path listed ih =>
    cases hanswer : course made (authorityCall fs path) with
    | some f =>
      exact .inr ⟨[], path, listed, f, rfl, by simpa using hmade, by simpa using hanswer⟩
    | none =>
      have hnext : course.Accepts (made ++ [authorityCall fs path]) :=
        TlsCourse.accepts_append_singleton.mpr ⟨hmade, fun _ => hanswer⟩
      rcases ih hnext with haccepts | ⟨front, path', back, f, rfl, hfront, hf⟩
      · exact .inl (by rwa [List.map_cons, List.append_cons])
      · refine .inr ⟨path :: front, path', back, f, rfl, ?_, ?_⟩
        · rwa [List.map_cons, List.append_cons]
        · rwa [List.map_cons, List.append_cons]

/-- How the making of a context ends: the calls that were made and what has come of them. -/
inductive Made (cfg : TlsConfig) (course : TlsCourse) (fs : Files) : TlsBuild → Prop
  | authority {front back : List String} {path : String} {f : TlsFailure}
      (paths : authorityPaths cfg.caPath = front ++ path :: back)
      (accepted : course.Accepts (.createContext :: front.map (authorityCall fs)))
      (refused : course (.createContext :: front.map (authorityCall fs)) (authorityCall fs path) =
        some f) :
      Made cfg course fs
        ⟨.createContext :: (front.map (authorityCall fs) ++ [authorityCall fs path]),
          .error (reported (.authorities path) f)⟩
  | client {e : TlsError} (accepted : course.Accepts (cfg.openingCalls fs))
      (failure : (cfg.loadClient (course (cfg.openingCalls fs)) fs).2 = some e) :
      Made cfg course fs
        ⟨cfg.openingCalls fs ++ (cfg.loadClient (course (cfg.openingCalls fs)) fs).1, .error e⟩
  | complete (accepted : course.Accepts (cfg.openingCalls fs))
      (loaded : (cfg.loadClient (course (cfg.openingCalls fs)) fs).2 = none) :
      Made cfg course fs
        ⟨cfg.openingCalls fs ++ (cfg.loadClient (course (cfg.openingCalls fs)) fs).1 ++ cfg.drops,
          .ok (some (if cfg.skipVerify then .lax else .standard))⟩

theorem buildAlong_of_disabled (h : cfg.disabled = true) :
    cfg.buildAlong course fs = ⟨[], .ok none⟩ := by
  rw [buildAlong, h]
  rfl

theorem buildAlong_of_refused {front back : List String} {path : String} {f : TlsFailure}
    (henabled : cfg.disabled = false) (hpaths : authorityPaths cfg.caPath = front ++ path :: back)
    (hfront : course.Accepts (.createContext :: front.map (authorityCall fs)))
    (hpath : course (.createContext :: front.map (authorityCall fs)) (authorityCall fs path) =
      some f) :
    cfg.buildAlong course fs =
      ⟨.createContext :: (front.map (authorityCall fs) ++ [authorityCall fs path]),
        .error (reported (.authorities path) f)⟩ := by
  have hloads : loadAuthoritiesAlong course fs [.createContext] (authorityPaths cfg.caPath) = _ :=
    hpaths ▸ loadAuthoritiesAlong_of_refusal hfront hpath
  simp only [buildAlong, henabled, Bool.false_eq_true, if_false, hloads]

/-- Behind the authorities it is for the client's own certificate to be loaded. -/
theorem buildAlong_of_accepts (henabled : cfg.disabled = false)
    (h : course.Accepts (cfg.openingCalls fs)) :
    cfg.buildAlong course fs =
      match (cfg.loadClient (course (cfg.openingCalls fs)) fs).2 with
      | some e =>
        ⟨cfg.openingCalls fs ++ (cfg.loadClient (course (cfg.openingCalls fs)) fs).1, .error e⟩
      | none =>
        ⟨cfg.openingCalls fs ++ (cfg.loadClient (course (cfg.openingCalls fs)) fs).1 ++ cfg.drops,
          .ok (some (if cfg.skipVerify then .lax else .standard))⟩ := by
  have hloads : loadAuthoritiesAlong course fs [.createContext] (authorityPaths cfg.caPath) = _ :=
    loadAuthoritiesAlong_of_accepts h
  have hopening : .createContext :: (authorityPaths cfg.caPath).map (authorityCall fs) =
      cfg.openingCalls fs := rfl
  simp only [buildAlong, henabled, Bool.false_eq_true, if_false, hloads, hopening, drops]
  cases (cfg.loadClient (course (cfg.openingCalls fs)) fs).2 with
  | some e => rfl
  | none => cases cfg.skipVerify <;> simp

/-- **How the making of a context ends.** -/
theorem made_buildAlong (henabled : cfg.disabled = false) :
    Made cfg course fs (cfg.buildAlong course fs) := by
  rcases accepts_or_refused fs TlsCourse.accepts_createContext (authorityPaths cfg.caPath) with
    haccepts | ⟨front, path, back, f, hpaths, hfront, hpath⟩
  · rw [buildAlong_of_accepts henabled haccepts]
    cases hclient : (cfg.loadClient (course (cfg.openingCalls fs)) fs).2 with
    | some e => exact .client haccepts hclient
    | none => exact .complete haccepts hclient
  · rw [buildAlong_of_refused henabled hpaths hfront hpath]
    exact .authority hpaths hfront hpath

/-- The context of a section that is not turned off is settled by its flag. -/
theorem context_eq {context : Option TlsContext} (henabled : cfg.disabled = false)
    (h : (cfg.buildAlong course fs).result = .ok context) :
    context = some (if cfg.skipVerify then .lax else .standard) := by
  have hmade : Made cfg course fs (cfg.buildAlong course fs) := made_buildAlong henabled
  generalize cfg.buildAlong course fs = run at hmade h
  cases hmade with
  | complete => exact (Except.ok.inj h).symm
  | authority | client => cases h

/-- Of the builds that succeed, those give no context whose section is turned off. -/
theorem context_eq_none {context : Option TlsContext}
    (h : (cfg.buildAlong course fs).result = .ok context) :
    context = none ↔ cfg.disabled = true := by
  cases hdisabled : cfg.disabled with
  | true =>
    rw [buildAlong_of_disabled hdisabled] at h
    exact iff_of_true (Except.ok.inj h).symm rfl
  | false =>
    rw [context_eq hdisabled h]
    exact iff_of_false nofun Bool.false_ne_true

/-! ## The client's own certificate -/

/-- Without a certificate nothing is called, and a key is then one too many. -/
theorem loadClient_eq_of_no_cert (h : cfg.certPath = "") :
    cfg.loadClient lib fs = ([], if cfg.keyPath = "" then none else some .keyWithoutCert) := by
  by_cases hkey : cfg.keyPath = "" <;> simp [loadClient, h, hkey]

/-- With a certificate, its passphrase is read, and then there is one call. -/
theorem loadClient_eq_of_cert (h : cfg.certPath ≠ "") :
    cfg.loadClient lib fs =
      match readPassphrase fs cfg.passphrasePath with
      | .error e => ([], some e)
      | .ok passphrase => ([cfg.chainCall passphrase],
          (lib (cfg.chainCall passphrase)).map (reported (.clientCert cfg.certPath))) := by
  cases hread : readPassphrase fs cfg.passphrasePath <;> simp [loadClient, chainCall, h, hread]

/-- Nothing is called for the certificate but what loads it. -/
theorem mem_loadClient {call : TlsCall} (h : call ∈ (cfg.loadClient lib fs).1) :
    ∃ passphrase, call = cfg.chainCall passphrase := by
  by_cases hcert : cfg.certPath = ""
  · rw [loadClient_eq_of_no_cert hcert] at h
    cases h
  · rw [loadClient_eq_of_cert hcert] at h
    cases hread : readPassphrase fs cfg.passphrasePath with
    | error e => rw [hread] at h; cases h
    | ok passphrase =>
      rw [hread] at h
      exact ⟨passphrase, List.mem_singleton.mp h⟩

end TlsConfig
end RegistryAuth
