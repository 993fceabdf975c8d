import RegistryAuth.Proofs.Command.Display

/-!
# What a ping says

A ping ends well if the registry was reached and gave an answer that is no refusal, and if what
is reported of it can be shown (`Command.ping_honest`).  Nothing is sent if there is no way to
send.

The exit code of a report is that of its worst finding: what is well and what is a warning leave
it as it is, and a failure is never made up for (`Report.exitCode_foldl_note`).
-/

namespace RegistryAuth

variable {σ τ : Type}

/-! ## Findings -/

namespace Report

/-- Adds a finding of a severity. -/
def note (r : Report) (severity : Severity) (step detail : String) : Report :=
  match severity with
  | .info => r.ok step detail
  | .warn => r.warn step detail
  | .error => r.fail step detail

theorem exitCode_eq_zero_iff {r : Report} :
    r.exitCode = 0 ↔ ∀ f ∈ r.findings, f.isFailure = false := by
  rw [exitCode, hasFailures]
  cases hany : r.findings.any Finding.isFailure with
  | true =>
    obtain ⟨f, hf, hfailure⟩ := List.any_eq_true.mp hany
    simp only [if_true, one_ne_zero, false_iff, not_forall]
    exact ⟨f, hf, by simp [hfailure]⟩
  | false =>
    rw [List.any_eq_false] at hany
    simpa using hany

theorem exitCode_add {r : Report} {f : Finding} :
    (r.add f).exitCode = 0 ↔ r.exitCode = 0 ∧ f.isFailure = false := by
  simp only [exitCode_eq_zero_iff, add, List.forall_mem_append, List.forall_mem_singleton]

theorem exitCode_note {r : Report} {severity : Severity} {step detail : String} :
    (r.note severity step detail).exitCode = 0 ↔ r.exitCode = 0 ∧ severity ≠ .error := by
  cases severity with
  | info => exact exitCode_add.trans (and_congr_right' (iff_of_true rfl (by decide)))
  | warn => exact exitCode_add.trans (and_congr_right' (iff_of_true rfl (by decide)))
  | error => exact exitCode_add.trans (and_congr_right' (by simp [Finding.isFailure]))

/-- Whatever is found, and in which order: a report fails if it did before, or if one of the
findings is a failure. -/
theorem exitCode_foldl_note (r : Report) (notes : List (Severity × String × String)) :
    (notes.foldl (fun r n => r.note n.1 n.2.1 n.2.2) r).exitCode = 0 ↔
      r.exitCode = 0 ∧ ∀ n ∈ notes, n.1 ≠ .error := by
  induction notes generalizing r with
  | nil => simp
  | cons n notes ih => rw [List.foldl_cons, ih, exitCode_note, List.forall_mem_cons, and_assoc]

end Report

namespace Command

/-! ## Answers -/

/-- What is reported of an answer that is no refusal. -/
def answerText (url : String) (status : Nat) : String := url ++ " HTTP " ++ toString status

theorem bracket_not_mem_answerText {url : String} (h : '[' ∉ url.toList) (status : Nat) :
    '[' ∉ (answerText url status).toList := by
  have hdigits : '[' ∉ (toString status).toList := by
    intro hmem
    have hdigit := Nat.isDigit_of_mem_toDigits (by decide) le_rfl (Nat.toList_repr ▸ hmem)
    exact absurd hdigit (by decide)
  have hword : '[' ∉ " HTTP ".toList := by simp
  rw [answerText, String.toList_append, String.toList_append, List.mem_append, List.mem_append]
  rintro ((hmem | hmem) | hmem)
  · exact h hmem
  · exact hword hmem
  · exact hdigits hmem

/-- A refusal is a failure, and any other answer is not, whatever its status. -/
theorem exitCode_addAnswer {r : Report} {url : String} {status : Nat} :
    (addAnswer r url status).exitCode = 0 ↔ r.exitCode = 0 ∧ status ≠ 401 := by
  simp only [addAnswer]
  split
  · rename_i hok
    exact Report.exitCode_add.trans (and_congr_right' (iff_of_true rfl (by omega)))
  · split
    · rename_i hrefused
      exact Report.exitCode_add.trans (and_congr_right' (by simp [Finding.isFailure, hrefused]))
    · rename_i hrefused
      exact Report.exitCode_add.trans (and_congr_right' (iff_of_true rfl hrefused))

theorem findings_addAnswer (r : Report) (url : String) {status : Nat} (h : status ≠ 401) :
    ∃ f, f.step = "request" ∧ f.detail = answerText url status ∧
      (addAnswer r url status).findings = r.findings ++ [f] := by
  simp only [addAnswer, if_neg h]
  split
  · exact ⟨_, rfl, rfl, rfl⟩
  · exact ⟨_, rfl, rfl, rfl⟩

theorem exitCode_fetchReport {r r' : Report} {url : String} {result : Except ClientError Answer}
    (h : fetchReport r url result = .ok (.report r')) :
    r'.exitCode = 0 ↔ r.exitCode = 0 ∧ ∃ a, result = .ok a ∧ a.status ≠ 401 := by
  rw [fetchReport.eq_def] at h
  split at h
  · rename_i a
    cases h
    rw [exitCode_addAnswer]
    simp
  · split at h
    · cases h
    · cases h
      refine Report.exitCode_add.trans (iff_of_false ?_ ?_)
      · simp [Finding.isFailure]
      · simp

theorem isReadable_label (o : SendOption) : Markup.IsReadable o.label.toList := by
  refine (Markup.isUntagged_of_not_mem ?_).isReadable
  cases o <;> simp [SendOption.label]

/-- An answer is shown if its text can be read; the way to send and the steps always can. -/
theorem exists_render_addAnswer {r : Report} (hr : r.findings = []) {o : SendOption} {url : String}
    {status width : Nat} (h : status ≠ 401) :
    (∃ lines, (addAnswer (r.ok "transport" o.label) url status).render width = .ok lines) ↔
      (Panel.hasRoom width 3 = true → Markup.IsReadable (answerText url status).toList) := by
  obtain ⟨f, hstep, hdetail, hfindings⟩ :=
    findings_addAnswer (r.ok "transport" o.label) url h
  have hsteps : ∀ step ∈ steps, Markup.IsReadable step.toList := fun step hmem =>
    (isLabel_of_mem_steps hmem).literal.isReadable
  rw [Report.exists_render_iff, hfindings, Report.ok, Report.add, hr, List.nil_append,
    List.singleton_append, ← hdetail]
  refine imp_congr_right fun _ => ⟨fun hall => (hall f (by simp)).2, fun hread => ?_⟩
  rw [List.forall_mem_cons, List.forall_mem_singleton, hstep]
  exact ⟨⟨hsteps _ (by simp [steps]), isReadable_label o⟩, hsteps _ (by simp [steps]), hread⟩

theorem fetchReport_eq_ok {r : Report} {url : String} {result : Except ClientError Answer}
    {output : CommandOutput} (h : fetchReport r url result = .ok output) :
    ∃ r', output = .report r' := by
  rw [fetchReport.eq_def] at h
  split at h
  · exact ⟨_, (Except.ok.inj h).symm⟩
  · split at h
    · cases h
    · exact ⟨_, (Except.ok.inj h).symm⟩

theorem exitCode_reach {m : Machine σ τ} {r : Report} (hr : r.findings = []) {address : String}
    {o : SendOption} {s : σ} {t : τ} {width : Nat} :
    (reach m r address o s t).exitCode width = 0 ↔
      ∃ url answer, Registry.url address Registry.defaultPath = .ok url ∧
        ((Client.mk .empty true o.route).get m.peer url t).result = .ok answer ∧
        answer.status ≠ 401 ∧
        (Panel.hasRoom width 3 = true →
          Markup.IsReadable (answerText url answer.status).toList) := by
  rw [CommandRun.exitCode_eq_zero_iff]
  unfold reach
  cases Registry.url address Registry.defaultPath with
  | error e => simp [quiet]
  | ok url =>
    simp only [Except.ok.injEq, exists_and_left, exists_eq_left']
    generalize ((Client.mk .empty true o.route).get m.peer url t).result = result
    have hnone : (r.ok "transport" o.label).exitCode = 0 := by
      simp [Report.exitCode_eq_zero_iff, Report.ok, Report.add, hr, Finding.isFailure]
    constructor
    · rintro ⟨output, houtput, hlines, hzero⟩
      obtain ⟨r', rfl⟩ := fetchReport_eq_ok houtput
      obtain ⟨-, answer, rfl, hstatus⟩ := (exitCode_fetchReport houtput).mp hzero
      obtain rfl : addAnswer (r.ok "transport" o.label) url answer.status = r' := by
        simpa [fetchReport] using houtput
      exact ⟨answer, rfl, hstatus, (exists_render_addAnswer hr hstatus).mp hlines⟩
    · rintro ⟨answer, rfl, hstatus, hread⟩
      exact ⟨_, rfl, (exists_render_addAnswer hr hstatus).mpr hread,
        exitCode_addAnswer.mpr ⟨hnone, hstatus⟩⟩

/-! ## Pings -/

variable {m : Machine σ τ} {target : Target} {timeout : Seconds} {insecure : Bool} {s : σ}

theorem exitCode_quiet_refuse {e : LoadError} {s : σ} {t : τ} {width : Nat} :
    (quiet (refuse e) s t).exitCode width ≠ 0 := by
  rw [ne_eq, CommandRun.exitCode_eq_zero_iff]
  rintro ⟨output, houtput, -, hzero⟩
  change refuse e = .ok output at houtput
  rw [refuse] at houtput
  split at houtput
  · rw [← Except.ok.inj houtput, CommandOutput.exitCode] at hzero
    cases hzero
  · cases houtput

theorem exitCode_quiet_error {e : CommandError} {s : σ} {t : τ} {width : Nat} :
    (quiet (.error e) s t).exitCode width ≠ 0 := by
  rw [ne_eq, CommandRun.exitCode_eq_zero_iff]
  rintro ⟨output, houtput, -⟩
  cases houtput

/-- A ping either comes to a way to send, and is the attempt to reach the registry by it, or it
sends nothing and is no success. -/
theorem runPing_cases (m : Machine σ τ) (target : Target) (timeout : Seconds) (insecure : Bool)
    (s : σ) (t : τ) (width : Nat) :
    (∃ o r s', Reaches m target timeout insecure s o ∧ r.findings = [] ∧
      runPing m target timeout insecure s t = reach m r target.address o s' t) ∨
    ((¬∃ o, Reaches m target timeout insecure s o) ∧
      (runPing m target timeout insecure s t).sendings = [] ∧
      (runPing m target timeout insecure s t).exitCode width ≠ 0) := by
  unfold runPing
  cases hconfiguration : configuration m target.config with
  | error e =>
    refine .inr ⟨?_, rfl, exitCode_quiet_refuse⟩
    rintro ⟨o, cfg, host, hcfg, -⟩
    rw [hconfiguration] at hcfg
    cases hcfg
  | ok cfg =>
    cases hhost : Registry.host target.address with
    | error e =>
      refine .inr ⟨?_, rfl, exitCode_quiet_error⟩
      rintro ⟨o, cfg', host, -, hhost', -⟩
      rw [hhost] at hhost'
      cases hhost'
    | ok host =>
      dsimp only
      cases hchoice : (compose m cfg host target (settings target timeout insecure) s).result with
      | ok o => exact .inl ⟨o, _, _, ⟨cfg, host, hconfiguration, hhost, hchoice⟩, rfl, rfl⟩
      | error e =>
        refine .inr ⟨?_, rfl, ?_⟩
        · rintro ⟨o, cfg', host', hcfg, hhost', hchoice'⟩
          rw [hconfiguration] at hcfg
          rw [hhost] at hhost'
          cases hcfg
          cases hhost'
          rw [hchoice] at hchoice'
          cases hchoice'
        · rw [ne_eq, CommandRun.exitCode_eq_zero_iff]
          rintro ⟨output, houtput, -, hzero⟩
          simp only [quiet] at houtput
          split at houtput
          · rw [← Except.ok.inj houtput, CommandOutput.exitCode, Report.fail,
              Report.exitCode_add] at hzero
            exact absurd hzero.2 (by simp [Finding.isFailure])
          · cases houtput

theorem Reaches.unique {o o' : SendOption} (h : Reaches m target timeout insecure s o)
    (h' : Reaches m target timeout insecure s o') : o = o' := by
  obtain ⟨cfg, host, hcfg, hhost, hchoice⟩ := h
  obtain ⟨cfg', host', hcfg', hhost', hchoice'⟩ := h'
  obtain rfl := Except.ok.inj (hcfg.symm.trans hcfg')
  obtain rfl := Except.ok.inj (hhost.symm.trans hhost')
  exact Except.ok.inj (hchoice.symm.trans hchoice')

theorem sendings_reach {r : Report} {address url : String} {o : SendOption} {t : τ}
    (hurl : Registry.url address Registry.defaultPath = .ok url) :
    (reach m r address o s t).sendings =
      ((Client.mk .empty true o.route).get m.peer url t).sendings := by
  unfold reach
  rw [hurl]

/-- A ping ends well exactly if the registry was reached and did not refuse, and that can be
shown. -/
theorem exitCode_runPing {t : τ} {width : Nat} :
    (runPing m target timeout insecure s t).exitCode width = 0 ↔
      ∃ o url answer, Reaches m target timeout insecure s o ∧
        Registry.url target.address Registry.defaultPath = .ok url ∧
        ((Client.mk .empty true o.route).get m.peer url t).result = .ok answer ∧
        answer.status ≠ 401 ∧
        (Panel.hasRoom width 3 = true →
          Markup.IsReadable (answerText url answer.status).toList) := by
  rcases runPing_cases m target timeout insecure s t width with
    ⟨o, r, s', hreaches, hr, heq⟩ | ⟨hnone, -, hexit⟩
  · rw [heq, exitCode_reach hr]
    constructor
    · rintro ⟨url, answer, hanswer⟩
      exact ⟨o, url, answer, hreaches, hanswer⟩
    · rintro ⟨o', url, answer, hreaches', hanswer⟩
      obtain rfl := hreaches.unique hreaches'
      exact ⟨url, answer, hanswer⟩
  · refine iff_of_false hexit ?_
    rintro ⟨o, url, answer, hreaches, -⟩
    exact hnone ⟨o, hreaches⟩

/-- A configuration whose section for certificates is turned off. -/
def uncertified : SecurityConfig := ⟨some { TlsConfig.empty with disabled := true }, none, ""⟩

end Command
end RegistryAuth
