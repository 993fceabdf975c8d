import RegistryAuth.Config.Security

/-!
# What the defaults add

The defaults add a section for certificates where there is none, and to that section a path for
the certificate authorities where there is none.  The flags of the section are kept, and what
has its defaults is not changed by others.
-/

namespace RegistryAuth
namespace SecurityConfig

variable {cfg : SecurityConfig} {env : Environment}

theorem caPathIn_ne_empty (env : Environment) : caPathIn env ≠ "" := by
  unfold caPathIn
  split
  · split
    · decide
    · rename_i path hpath
      simpa using hpath
  · decide

/-- There is a section, its flags are those of the section before, or of one in which nothing is
set, and it has a path for the authorities. -/
theorem withDefaults_tls (cfg : SecurityConfig) (env : Environment) :
    ∃ part, (cfg.withDefaults env).tls = some part ∧
      part.disabled = (cfg.tls.getD .empty).disabled ∧
      part.skipVerify = (cfg.tls.getD .empty).skipVerify ∧ part.caPath ≠ "" := by
  by_cases hpath : (cfg.tls.getD .empty).caPath = ""
  · exact ⟨{ cfg.tls.getD .empty with caPath := caPathIn env },
      by simp [withDefaults, hpath], rfl, rfl, caPathIn_ne_empty env⟩
  · exact ⟨cfg.tls.getD .empty, by simp [withDefaults, hpath], rfl, rfl, hpath⟩

/-- A section with a path for the authorities is left as it is. -/
theorem withDefaults_eq_self {part : TlsConfig} (htls : cfg.tls = some part)
    (hpath : part.caPath ≠ "") : cfg.withDefaults env = cfg := by
  obtain ⟨tls, basic, helper⟩ := cfg
  obtain rfl : tls = some part := htls
  simp [withDefaults, hpath]

/-- Defaults that are there are not changed by those of another environment. -/
theorem withDefaults_withDefaults (cfg : SecurityConfig) (env env' : Environment) :
    (cfg.withDefaults env).withDefaults env' = cfg.withDefaults env := by
  obtain ⟨part, htls, -, -, hpath⟩ := cfg.withDefaults_tls env
  exact withDefaults_eq_self htls hpath

end SecurityConfig
end RegistryAuth
