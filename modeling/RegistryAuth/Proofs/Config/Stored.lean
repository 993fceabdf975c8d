import RegistryAuth.Config.Document
import RegistryAuth.Config.Load
import RegistryAuth.Proofs.Config.Defaults
import RegistryAuth.Proofs.Files.Reading
import RegistryAuth.Proofs.Json.Written
import RegistryAuth.Proofs.Text.Utf8

/-!
# Storing a configuration

A configuration that is stored is loaded again as it was, section by section and flag by flag:
`SecurityConfig.loadJson_render_toJson` for the text, `SecurityConfig.loadFile_of_stored` for a
file that holds it.

Three readers have to agree with what is written.  The document is one that is read back
(`SecurityConfig.isPlain_toJson`), its layout is the one in which members are looked for
(`Schema.config_toJson`), and in a file it is neither changed by UTF-8 nor by the line ends,
since it is written in ASCII and holds none.
-/

namespace RegistryAuth

/-! ## The layout -/

namespace Schema

/-- Members are looked for where they are stored, and a section that is missing stays so. -/
theorem config_toJson (cfg : SecurityConfig) :
    config Json.shape cfg.toJson.shape = .ok cfg := by
  -- all names are written out, so once the sections are known the search is a computation
  obtain ⟨- | t, - | b, helper⟩ := cfg
  · rfl
  · rfl
  · rfl
  · rfl

end Schema

/-! ## The text -/

theorem isPlain_pathSection (path : String) : (pathSection path).IsPlain :=
  .obj (by simp) (by simp) (by simp [Json.IsPlain.str])

theorem TlsConfig.isPlain_toJson (t : TlsConfig) : t.toJson.IsPlain := by
  have hauthorities : (Json.obj [("cert", pathSection t.caPath)]).IsPlain :=
    .obj (by simp) (by simp) (by simp [isPlain_pathSection])
  have hclient : (Json.obj [("cert", pathSection t.certPath), ("key", pathSection t.keyPath),
      ("passphrase", pathSection t.passphrasePath), ("disabled", .bool t.disabled)]).IsPlain :=
    .obj (by simp) (by simp) (by simp [isPlain_pathSection, Json.IsPlain.bool])
  exact .obj (by simp) (by simp)
    (by simp [hauthorities, hclient, Json.IsPlain.str, Json.IsPlain.bool])

theorem BasicAuth.isPlain_toJson (b : BasicAuth) : b.toJson.IsPlain :=
  .obj (by simp) (by simp) (by simp [Json.IsPlain.str])

namespace SecurityConfig

variable {cfg : SecurityConfig}

theorem isPlain_toJson (cfg : SecurityConfig) : cfg.toJson.IsPlain := by
  obtain ⟨- | t, - | b, helper⟩ := cfg
  · exact .obj (by simp) (by simp) (by simp [Json.IsPlain.str])
  · exact .obj (by simp) (by simp) (by simp [Json.IsPlain.str, b.isPlain_toJson])
  · exact .obj (by simp) (by simp) (by simp [Json.IsPlain.str, t.isPlain_toJson])
  · exact .obj (by simp) (by simp) (by simp [Json.IsPlain.str, t.isPlain_toJson, b.isPlain_toJson])

theorem ofJson_toJson (cfg : SecurityConfig) : ofJson cfg.toJson = .ok cfg := by
  have htruthy : cfg.toJson.isTruthy = true := rfl
  rw [ofJson, htruthy, if_pos rfl, ofValue, Schema.config_toJson]
  rfl

theorem loadJson_of_parse {text : String} {members : List (CodeText × Json)}
    (h : Json.parse text = .ok (.obj members)) : loadJson text = ofJson (.obj members) := by
  rw [loadJson, h]

/-- What is stored as text is loaded from it. -/
theorem loadJson_render (cfg : SecurityConfig) : loadJson (Json.render cfg.toJson) = .ok cfg := by
  have hparse : Json.parse (Json.render cfg.toJson) = .ok cfg.toJson :=
    Json.parse_render cfg.isPlain_toJson
  exact (loadJson_of_parse hparse).trans cfg.ofJson_toJson

/-- **A configuration that is stored is loaded as it was**, with a section of defaults apart from
one that is missing.  One that has its defaults keeps them, whatever the environment is in which
it is loaded and given defaults again.  The stored text is in printed ASCII, whatever the texts
of the configuration are. -/
theorem loadJson_render_toJson (cfg : SecurityConfig) :
    loadJson (Json.render cfg.toJson) = .ok cfg ∧
    (∀ env env', (loadJson (Json.render (cfg.withDefaults env).toJson)).map
      (fun loaded => loaded.withDefaults env') = .ok (cfg.withDefaults env)) ∧
    (Json.render cfg.toJson).toList.all Json.isShown = true := by
  refine ⟨cfg.loadJson_render, fun env env' => ?_, ?_⟩
  · rw [loadJson_render, Except.map, withDefaults_withDefaults]
  · rw [Json.render, String.toList_ofList]
    exact cfg.isPlain_toJson.all_isShown_print

/-! ## Files -/

/-- What is stored in a file is loaded from it. -/
theorem loadFile_of_stored {fs : Files} {path : String} (hjson : isJsonPath (plainPath path) = true)
    (hnul : Files.hasNul (plainPath path) = false)
    (hfile : fs.state (plainPath path) =
      .file (Text.Utf8.encodeString (Json.render cfg.toJson))) :
    loadFile fs path = .ok cfg := by
  have hreturn : '\r' ∉ Json.print cfg.toJson := by
    intro hmem
    have hshown := List.all_eq_true.mp cfg.isPlain_toJson.all_isShown_print '\r' hmem
    exact absurd hshown (by decide)
  have hread : fs.readLines (plainPath path) = .ok (Json.print cfg.toJson) := by
    rw [Files.readLines, Files.readExact_of_file hnul hfile, Text.Utf8.encodeString, Json.render,
      String.toList_ofList, Text.Utf8.decode_encode]
    exact congrArg Except.ok (Text.unifyNewlines_eq_self hreturn)
  simp only [loadFile, hread, hjson, if_true]
  exact cfg.loadJson_render

end SecurityConfig
end RegistryAuth
