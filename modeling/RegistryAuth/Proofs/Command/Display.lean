import RegistryAuth.Command.Run
import RegistryAuth.Proofs.Composition.Verification
import RegistryAuth.Proofs.Report.Shown

/-!
# What commands display

The texts of a configuration and the details of findings are shown as markup.  A command that
shows them ends well only if their markup can be read (`Command.exitCode_showConfig`), and what a
row shows is the text itself if that is legible (`Command.cells_shown`).  The keys and the steps
beside them are fixed, and they are labels (`Command.isLabel_of_mem_configFields`,
`Command.isLabel_of_mem_steps`).
-/

namespace RegistryAuth

variable {σ τ : Type}

/-- A short text in ASCII without brackets and colons is a label. -/
theorem isLabel_of_plain {room : Nat} {text : String}
    (h : text.toList.all (fun c => 32 ≤ c.toNat && c.toNat < 127 && c ≠ '[' && c ≠ ':') = true)
    (hlength : text.toList.length ≤ room) : IsLabel room text := by
  have hchars : ∀ c ∈ text.toList, (32 ≤ c.toNat ∧ c.toNat < 127) ∧ c ≠ '[' ∧ c ≠ ':' := by
    simpa [and_assoc] using h
  have hascii : ∀ c ∈ text.toList, 32 ≤ c.toNat ∧ c.toNat < 127 := fun c hc => (hchars c hc).1
  have hbracket : '[' ∉ text.toList := fun hmem => (hchars _ hmem).2.1 rfl
  have hcolon : ':' ∉ text.toList := fun hmem => (hchars _ hmem).2.2 rfl
  have hnewline : '\n' ∉ text.toList := fun hmem => absurd (hascii _ hmem) (by decide)
  have hends : ∀ c ∈ text.toList, Column.isLineEnd c = true → c = '\n' := by
    intro c hc hend
    have := hascii c hc
    simp only [Column.isLineEnd, Bool.or_eq_true, Bool.and_eq_true, decide_eq_true_eq] at hend
    omega
  have hnarrow := Cells.isNarrow_of_ascii hascii
  have hwidth := Column.textWidth_of_ascii hascii
  refine ⟨⟨⟨Markup.isUntagged_of_not_mem hbracket, ?_, ?_, ?_⟩, hends, ?_⟩, by omega⟩
  · rintro before after heq
    exact hbracket (by simp [heq])
  · rintro before code after heq -
    exact absurd (by simp [heq]) hcolon
  · intro c hc
    have := hascii c hc
    simp only [Markup.isDropped, List.contains_eq_mem, decide_eq_false_iff_not, List.mem_cons,
      List.not_mem_nil, or_false]
    omega
  · refine (Column.fits_textWidth hends fun line hline => ?_).mono (by omega)
    rw [Text.splitOn_eq_singleton hnewline, List.mem_singleton] at hline
    rwa [hline]

namespace CommandRun

/-- A command ends well if it comes to something that can be shown and that is no failure. -/
theorem exitCode_eq_zero_iff {run : CommandRun σ τ} {width : Nat} :
    run.exitCode width = 0 ↔ ∃ output, run.result = .ok output ∧
      (∃ lines, output.render width = .ok lines) ∧ output.exitCode = 0 := by
  rw [exitCode]
  cases run.result with
  | error e => simp
  | ok output =>
    cases hrender : output.render width with
    | error e => simp [hrender]
    | ok lines => simp [hrender]

theorem lines_eq_ok_iff {run : CommandRun σ τ} {width : Nat} {lines : List String} :
    run.lines width = .ok lines ↔
      ∃ output, run.result = .ok output ∧ output.render width = .ok lines := by
  rw [CommandRun.lines]
  cases run.result with
  | error e => simp
  | ok output =>
    cases hrender : output.render width with
    | error e => simp [hrender, Except.mapError]
    | ok shown => simp [hrender, Except.mapError]

end CommandRun

namespace Command

/-! ## Configurations -/

theorem isLabel_of_mem_configFields {cfg : SecurityConfig} {field : String × Json}
    (h : field ∈ configFields cfg) : IsLabel 24 field.1 := by
  have hkeys : ["credsStore", "tls.name", "tls.ca.cert.path", "tls.client.cert.path",
      "tls.client.key.path", "tls.client.disabled", "tls.insecure_skip_verify", "basic",
      "basic.username", "basic.password", "basic.password_file"].all (fun key =>
        key.toList.all (fun c => 32 ≤ c.toNat && c.toNat < 127 && c ≠ '[' && c ≠ ':') &&
          key.toList.length ≤ 24) = true := by
    decide +kernel
  have hmem : field.1 ∈ ["credsStore", "tls.name", "tls.ca.cert.path", "tls.client.cert.path",
      "tls.client.key.path", "tls.client.disabled", "tls.insecure_skip_verify", "basic",
      "basic.username", "basic.password", "basic.password_file"] := by
    have hkey := List.mem_map_of_mem (f := Prod.fst) h
    cases hbasic : cfg.basic <;>
      simp [configFields, tlsFields, basicFields, hbasic] at hkey ⊢ <;> tauto
  have hkey := List.all_eq_true.mp hkeys _ hmem
  rw [Bool.and_eq_true, decide_eq_true_eq] at hkey
  exact isLabel_of_plain hkey.1 hkey.2

theorem result_showConfig {m : Machine σ τ} {path : String} {cfg : SecurityConfig}
    (hload : SecurityConfig.loadFile m.files path = .ok cfg) (s : σ) (t : τ) :
    (run m (.showConfig path) s t).result =
      .ok (.mapping ⟨"Security config " ++ SecurityConfig.plainPath path,
        configFields (cfg.withDefaults m.environment)⟩) := by
  have hconfiguration : configuration m path = .ok (cfg.withDefaults m.environment) := by
    rw [configuration, hload]
    rfl
  change showFields m path = _
  unfold showFields
  rw [hconfiguration]

/-- To show a configuration ends well if the markup of its texts can be read. -/
theorem exitCode_showConfig {m : Machine σ τ} {path : String} {cfg : SecurityConfig}
    (hload : SecurityConfig.loadFile m.files path = .ok cfg) (s : σ) (t : τ) (width : Nat) :
    (run m (.showConfig path) s t).exitCode width = 0 ↔
      (Panel.hasRoom width 2 = true → ∀ field ∈ configFields (cfg.withDefaults m.environment),
        Markup.IsReadable (Mapping.valueText field.2).toList) := by
  have hkey : ∀ field ∈ configFields (cfg.withDefaults m.environment),
      Markup.IsReadable field.1.toList := fun field hfield =>
    (isLabel_of_mem_configFields hfield).literal.isReadable
  rw [CommandRun.exitCode_eq_zero_iff, result_showConfig hload]
  simp only [Except.ok.injEq, exists_eq_left', CommandOutput.render, CommandOutput.exitCode,
    and_true, Mapping.exists_render_iff]
  exact imp_congr_right fun _ => forall₂_congr fun field hfield => and_iff_right (hkey field hfield)

/-- A text of a configuration that is legible is shown as it stands. -/
theorem showsRow_showConfig {m : Machine σ τ} {path : String} {cfg : SecurityConfig}
    (hload : SecurityConfig.loadFile m.files path = .ok cfg) {s : σ} {t : τ} {width : Nat}
    (hwidth : 59 ≤ width) {lines : List String}
    (hlines : (run m (.showConfig path) s t).lines width = .ok lines) {field : String × Json}
    (hfield : field ∈ configFields (cfg.withDefaults m.environment))
    (hlegible : IsLegible (width - 35) (Mapping.valueText field.2)) :
    Panel.ShowsRow (lines.map String.toList)
      [field.1.toList, (Mapping.valueText field.2).toList] := by
  obtain ⟨output, houtput, hrender⟩ := CommandRun.lines_eq_ok_iff.mp hlines
  rw [result_showConfig hload] at houtput
  obtain rfl := Except.ok.inj houtput
  exact Mapping.showsRow (k := 24) (by decide) hwidth (fun _ => isLabel_of_mem_configFields) hrender
    hfield hlegible

/-! ## Reports -/

/-- The steps that commands report. -/
def steps : List String :=
  ["transport", "identity", "server address", "resolve", "request", "auth"]

theorem isLabel_of_mem_steps {step : String} (h : step ∈ steps) : IsLabel 14 step := by
  have hsteps : steps.all (fun step =>
      step.toList.all (fun c => 32 ≤ c.toNat && c.toNat < 127 && c ≠ '[' && c ≠ ':') &&
        step.toList.length ≤ 14) = true := by
    decide +kernel
  have hstep := List.all_eq_true.mp hsteps _ h
  rw [Bool.and_eq_true, decide_eq_true_eq] at hstep
  exact isLabel_of_plain hstep.1 hstep.2

/-- The report has no other steps. -/
def HasSteps (r : Report) : Prop := ∀ f ∈ r.findings, f.step ∈ steps

theorem hasSteps_titled (title : String) : HasSteps (.titled title) := by
  rintro f ⟨⟩

theorem HasSteps.add {r : Report} (h : HasSteps r) {f : Finding} (hf : f.step ∈ steps) :
    HasSteps (r.add f) := by
  intro g hg
  rcases List.mem_append.mp hg with hg | hg
  · exact h g hg
  · rwa [List.mem_singleton.mp hg]

theorem HasSteps.addOption {r : Report} (h : HasSteps r) (o : SendOption) :
    HasSteps (addOption r o) := by
  have htransport : HasSteps (r.ok "transport" o.label) := h.add (by simp [steps])
  rw [Command.addOption.eq_def]
  split
  · exact (htransport.add (by simp [steps])).add (by simp [steps])
  · exact htransport

theorem HasSteps.addAnswer {r : Report} (h : HasSteps r) (url : String) (status : Nat) :
    HasSteps (addAnswer r url status) := by
  simp only [Command.addAnswer]
  split
  · exact h.add (by simp [steps])
  · split
    · exact h.add (by simp [steps])
    · exact h.add (by simp [steps])

theorem step_of_finding? {e : ClientError} {url step detail : String}
    (h : e.finding? url = some (step, detail)) : step ∈ steps := by
  have hstep : step = "auth" ∨ step = "request" := by
    simp only [ClientError.finding?] at h
    split at h
    · exact .inl (Prod.mk.inj (Option.some.inj h)).1.symm
    · split at h
      · exact .inr (Prod.mk.inj (Option.some.inj h)).1.symm
      · cases h
    · exact .inr (Prod.mk.inj (Option.some.inj h)).1.symm
    · exact .inr (Prod.mk.inj (Option.some.inj h)).1.symm
    · cases h
  rcases hstep with rfl | rfl <;> simp [steps]

theorem HasSteps.fetchReport {r r' : Report} (h : HasSteps r) {url : String}
    {result : Except ClientError Answer} (hr : fetchReport r url result = .ok (.report r')) :
    HasSteps r' := by
  rw [Command.fetchReport.eq_def] at hr
  split at hr
  · cases hr
    exact h.addAnswer _ _
  · split at hr
    · cases hr
    · rename_i hfinding
      cases hr
      exact h.add (step_of_finding? hfinding)

theorem ne_report_of_refuse {e : LoadError} {r : Report} : refuse e ≠ .ok (.report r) := by
  intro h
  rw [refuse] at h
  split at h <;> cases h

theorem hasSteps_of_runResolve {m : Machine σ τ} {target : Target} {s : σ} {t : τ} {r : Report}
    (h : (runResolve m target s t).result = .ok (.report r)) : HasSteps r := by
  unfold runResolve at h
  split at h
  · exact absurd h ne_report_of_refuse
  · split at h
    · cases h
    · simp only [quiet, resolutionReport] at h
      split at h
      · cases h
        exact (hasSteps_titled _).addOption _
      · split at h
        · cases h
          exact (hasSteps_titled _).add (by simp [steps])
        · cases h

theorem hasSteps_of_runPing {m : Machine σ τ} {target : Target} {timeout : Seconds}
    {insecure : Bool} {s : σ} {t : τ} {r : Report}
    (h : (runPing m target timeout insecure s t).result = .ok (.report r)) : HasSteps r := by
  unfold runPing at h
  split at h
  · exact absurd h ne_report_of_refuse
  · split at h
    · cases h
    · dsimp only at h
      split at h
      · simp only [quiet] at h
        split at h
        · cases h
          exact (hasSteps_titled _).add (by simp [steps])
        · cases h
      · unfold reach at h
        split at h
        · cases h
        · exact ((hasSteps_titled _).add (by simp [steps])).fetchReport h

/-- Whatever a command reports, its steps are among those above. -/
theorem hasSteps_of_run {m : Machine σ τ} {c : Command} {s : σ} {t : τ} {r : Report}
    (h : (run m c s t).result = .ok (.report r)) : HasSteps r := by
  cases c with
  | showConfig path =>
    change showFields m path = _ at h
    unfold showFields at h
    cases hconfiguration : configuration m path with
    | error e =>
      rw [hconfiguration] at h
      exact absurd h ne_report_of_refuse
    | ok cfg =>
      rw [hconfiguration] at h
      exact CommandOutput.noConfusion (Except.ok.inj h)
  | resolve target =>
    rw [run] at h
    exact hasSteps_of_runResolve h
  | ping target timeout insecure =>
    rw [run] at h
    exact hasSteps_of_runPing h

/-- A configuration in which only a user is named. -/
def naming (user : String) : SecurityConfig :=
  ⟨none, some { BasicAuth.empty with username := user }, ""⟩

theorem mem_configFields_naming (user : String) (env : Environment) :
    ("basic.username", Json.str (orDash user)) ∈ configFields ((naming user).withDefaults env) := by
  simp [naming, configFields, basicFields, SecurityConfig.withDefaults]

end Command
end RegistryAuth
