import RegistryAuth.Config.Load
import RegistryAuth.Proofs.Files.Reading
import RegistryAuth.Proofs.Json.LongNumber
import RegistryAuth.Proofs.Yaml.Front
import RegistryAuth.Proofs.Yaml.Plain

/-!
# What escapes from loading

A configuration that cannot be loaded should be reported as one that is unreadable or invalid.
`SecurityConfig.Escapes` lists what is not: a path or bytes that are no text, a JSON document that
meets a number which is too long, and scalars of a YAML document that its readers of tokens or of
values let go.  Loading either gives a configuration, or it fails in a way that is reported exactly
if nothing of the list accounts for it, and what is on the list does make it fail
(`SecurityConfig.loadFile_isConfigError_iff`); a file of one byte shows that the list is needed
(`SecurityConfig.loadFile_of_garbled_file`).

## Which documents in YAML escape

Of a document whose types are those of its forms, and which merges nothing in, it is said exactly:
it escapes if a scalar in it is refused by its type (`SecurityConfig.escapes_iff_of_isPlain`).
A document may also break off while its tokens are read, as one does that begins with a version of
too many digits (`SecurityConfig.escapes_of_version`) or with a text in quotes in which a character
beyond all characters is written (`SecurityConfig.escapes_of_escape`).
-/

namespace RegistryAuth
namespace SecurityConfig

open Yaml (Document Graph Misread)

variable {fs : Files} {path : String}

/-- What accounts for a failure that is not put down to the configuration. -/
inductive Escapes (fs : Files) (path : String) : LoadError → Prop
  | nul (h : Files.hasNul (plainPath path) = true) : Escapes fs path .nulInPath
  | bytes {bytes : List UInt8} {d : Text.DecodeError}
      (hnul : Files.hasNul (plainPath path) = false)
      (hfile : fs.state (plainPath path) = .file bytes)
      (h : Text.Utf8.decode bytes = .error d) : Escapes fs path (.bytes d)
  | number {cs : List Char} {n : Nat} (hread : fs.readLines (plainPath path) = .ok cs)
      (hjson : isJsonPath (plainPath path) = true) (h : Json.MeetsLong cs n) :
      Escapes fs path (.number (.tooLong n))
  | token {cs : List Char} {f : Yaml.ScalarFault}
      (hread : fs.readLines (plainPath path) = .ok cs)
      (hyaml : isJsonPath (plainPath path) = false) (h : Misread cs f)
      (hends : Graph.ofText cs = .error (.scalar f)) : Escapes fs path (.scalar f)
  | value {cs : List Char} {g : Graph} {f : Yaml.ScalarFault}
      (hread : fs.readLines (plainPath path) = .ok cs)
      (hyaml : isJsonPath (plainPath path) = false) (hg : Graph.ofText cs = .ok (some g))
      (h : g.Refused f) (hends : Document.ofGraph g = .error (.scalar f)) :
      Escapes fs path (.scalar f)

theorem Escapes.isConfigError_eq_false {e : LoadError} (h : Escapes fs path e) :
    e.isConfigError = false := by
  cases h
  all_goals rfl

/-! ## Texts -/

/-- A failure with this property is reported, or is one that the first argument allows. -/
abbrev Reports {α : Type} (allowed : LoadError → Prop) (r : Except LoadError α) : Prop :=
  Except.Ensures (fun _ => True) (fun e => e.isConfigError = true ∨ allowed e) r

theorem ofValue_reports {α : Type} {allowed : LoadError → Prop} (look : α → Shape α) (v : α) :
    Reports allowed (ofValue look v) := by
  rw [ofValue]
  cases Schema.config look (look v) with
  | error offences => exact .inl rfl
  | ok cfg => trivial

/-- Only a number that is too long escapes from a text in JSON. -/
theorem loadJson_reports (text : String) :
    Reports (fun e => ∃ n, e = .number (.tooLong n) ∧ Json.MeetsLong text.toList n)
      (loadJson text) := by
  rw [loadJson]
  split
  · rename_i e herror
    obtain ⟨n, rfl, hlong⟩ := Json.parse_eq_number_iff.mp herror
    exact .inr ⟨n, rfl, hlong⟩
  · exact .inl rfl
  · rw [ofJson]
    split
    · exact ofValue_reports _ _
    · trivial
  · exact .inl rfl

theorem loadJson_of_meetsLong {text : String} {n : Nat} (h : Json.MeetsLong text.toList n) :
    loadJson text = .error (.number (.tooLong n)) := by
  have hparse := Json.parse_eq_number_iff.mpr ⟨n, rfl, h⟩
  simp only [loadJson, hparse]

/-- A scalar of a document is let go where its tokens are read, or where its values are made. -/
theorem ofText_eq_scalar_iff {cs : List Char} {f : Yaml.ScalarFault} :
    Document.ofText cs = .error (.scalar f) ↔
      Graph.ofText cs = .error (.scalar f) ∨
        ∃ g, Graph.ofText cs = .ok (some g) ∧ Document.ofGraph g = .error (.scalar f) := by
  rw [Document.ofText]
  constructor
  · intro h
    split at h
    · rename_i hgraph
      exact .inl (by rw [hgraph, Except.error.inj h])
    · cases h
    · rename_i g hgraph
      exact .inr ⟨g, hgraph, Except.map_eq_error h⟩
  · rintro (hgraph | ⟨g, hgraph, hvalues⟩)
    · rw [hgraph]
    · rw [hgraph]
      dsimp only
      rw [hvalues]
      rfl

/-- Only a scalar escapes from a text in YAML. -/
theorem loadYaml_reports (text : String) :
    Reports (fun e => ∃ f, e = .scalar f ∧ Document.ofText text.toList = .error (.scalar f))
      (loadYaml text) := by
  rw [loadYaml]
  split
  · rename_i f herror
    exact .inr ⟨f, rfl, herror⟩
  · rename_i f hscalar _
    cases f with
    | scalar s => exact absurd rfl (hscalar s)
    | _ => exact .inl rfl
  · trivial
  · split
    · trivial
    · exact ofValue_reports _ _
    · exact .inl rfl

theorem loadYaml_of_scalar {text : String} {f : Yaml.ScalarFault}
    (h : Document.ofText text.toList = .error (.scalar f)) :
    loadYaml text = .error (.scalar f) := by
  simp only [loadYaml, h]

/-! ## Files -/

theorem loadFile_reports (fs : Files) (path : String) :
    Reports (Escapes fs path) (loadFile fs path) := by
  rw [loadFile]
  split
  · exact .inl rfl
  · rename_i hread
    rw [Files.readLines_eq_error, Files.readExact_eq_error_nulInPath] at hread
    exact .inr (.nul hread)
  · rename_i d hread
    rw [Files.readLines_eq_error, Files.readExact_eq_error_text] at hread
    obtain ⟨hnul, bytes, hfile, hdecode⟩ := hread
    exact .inr (.bytes hnul hfile hdecode)
  · rename_i cs hread
    split
    · rename_i hjson
      refine (loadJson_reports (String.ofList cs)).mono (fun _ h => h) fun e he => ?_
      rcases he with h | ⟨n, rfl, hlong⟩
      · exact .inl h
      · rw [String.toList_ofList] at hlong
        exact .inr (.number hread hjson hlong)
    · rename_i hyaml
      rw [Bool.not_eq_true] at hyaml
      refine (loadYaml_reports (String.ofList cs)).mono (fun _ h => h) fun e he => ?_
      rw [String.toList_ofList] at he
      rcases he with h | ⟨f, rfl, htext⟩
      · exact .inl h
      · rcases ofText_eq_scalar_iff.mp htext with hgraph | ⟨g, hgraph, hvalues⟩
        · exact .inr (.token hread hyaml (Graph.misread_of_ofText hgraph) hgraph)
        · exact .inr (.value hread hyaml hgraph (Document.refused_of_ofGraph hvalues) hvalues)

theorem loadFile_of_text {cs : List Char} (h : fs.readLines (plainPath path) = .ok cs) :
    loadFile fs path =
      if isJsonPath (plainPath path) then loadJson (String.ofList cs)
      else loadYaml (String.ofList cs) := by
  simp only [loadFile, h]

/-- Whatever is on the list makes the loading fail. -/
theorem Escapes.loadFile_eq {e : LoadError} (h : Escapes fs path e) :
    loadFile fs path = .error e := by
  have hscalar {cs : List Char} {f : Yaml.ScalarFault}
      (hread : fs.readLines (plainPath path) = .ok cs)
      (hyaml : isJsonPath (plainPath path) = false)
      (htext : Document.ofText cs = .error (.scalar f)) :
      loadFile fs path = .error (.scalar f) := by
    rw [loadFile_of_text hread, hyaml, if_neg Bool.false_ne_true]
    exact loadYaml_of_scalar (by rw [String.toList_ofList, htext])
  cases h with
  | nul hnul =>
    have hread : fs.readLines (plainPath path) = .error .nulInPath := by
      rw [Files.readLines_eq_error, Files.readExact_eq_error_nulInPath, hnul]
    simp only [loadFile, hread]
  | @bytes bytes d hnul hfile hdecode =>
    have hread : fs.readLines (plainPath path) = .error (.text d) := by
      rw [Files.readLines_eq_error, Files.readExact_eq_error_text]
      exact ⟨hnul, _, hfile, hdecode⟩
    simp only [loadFile, hread]
  | number hread hjson hlong =>
    rw [loadFile_of_text hread, if_pos hjson]
    exact loadJson_of_meetsLong (by rwa [String.toList_ofList])
  | token hread hyaml _ hends => exact hscalar hread hyaml (ofText_eq_scalar_iff.mpr (.inl hends))
  | value hread hyaml hg _ hends =>
    exact hscalar hread hyaml (ofText_eq_scalar_iff.mpr (.inr ⟨_, hg, hends⟩))

section Yaml

variable {cs rest : List Char} (hyaml : isJsonPath (plainPath path) = false)

include hyaml

theorem escapes_of_graph_error {f : Yaml.ScalarFault}
    (hread : fs.readLines (plainPath path) = .ok cs) (h : Graph.ofText cs = .error (.scalar f)) :
    Escapes fs path (.scalar f) :=
  .token hread hyaml (Graph.misread_of_ofText h) h

/-- A document escapes that begins with a version of too many digits. -/
theorem escapes_of_version {blanks ds : List Char}
    (hread : fs.readLines (plainPath path) =
      .ok ('%' :: (['Y', 'A', 'M', 'L'] ++ ' ' :: (blanks ++ (ds ++ rest)))))
    (htext : ('%' :: (['Y', 'A', 'M', 'L'] ++ ' ' :: (blanks ++ (ds ++ rest)))).all
      Yaml.isTextChar = true)
    (hblanks : ∀ c ∈ blanks, c = ' ') (hds : ∀ d ∈ ds, d.isDigit = true)
    (hrest : ∀ c, rest.head? = some c → c.isDigit = false)
    (long : Number.maxDigits < ds.length) :
    Escapes fs path (.scalar (.number (.tooLong ds.length))) :=
  escapes_of_graph_error hyaml hread (Graph.ofText_of_version hblanks hds hrest long htext)

/-- A document escapes that begins with a text in quotes in which a character beyond all
characters is written. -/
theorem escapes_of_escape {front ds : List Char}
    (hread : fs.readLines (plainPath path) = .ok ('"' :: (front ++ '\\' :: 'U' :: (ds ++ rest))))
    (htext : ('"' :: (front ++ '\\' :: 'U' :: (ds ++ rest))).all Yaml.isTextChar = true)
    (hfront : ∀ c ∈ front, Yaml.isQuotedPlain c = true) (hlength : ds.length = 8)
    (hds : ∀ d ∈ ds, (Unicode.hexDigit? d).isSome = true)
    (beyond : 0x110000 ≤ Unicode.hexNat ds) :
    Escapes fs path (.scalar (Yaml.rangeFault (Unicode.hexNat ds))) :=
  escapes_of_graph_error hyaml hread (Graph.ofText_of_escape hfront hlength hds beyond htext)

/-- **A plain document escapes exactly if a scalar in it is refused by its type**, because it is
no flag, no number or no time. -/
theorem escapes_iff_of_isPlain {g : Graph} (hread : fs.readLines (plainPath path) = .ok cs)
    (hg : Graph.ofText cs = .ok (some g)) (plain : g.IsPlain) :
    (∃ f, Escapes fs path (.scalar f)) ↔ ∃ i f, g.Reaches i ∧ (g.node i).Refuses f := by
  constructor
  · rintro ⟨f, hescapes⟩
    rcases Document.ofGraph_of_isPlain plain with ⟨⟨d, hd⟩, -⟩ | ⟨i, f, -, hi, hf⟩
    · cases hescapes with
      | token hread' _ _ hends =>
        obtain rfl := Except.ok.inj (hread.symm.trans hread')
        cases hg.symm.trans hends
      | value hread' _ hg' _ hends =>
        obtain rfl := Except.ok.inj (hread.symm.trans hread')
        obtain rfl := Option.some.inj (Except.ok.inj (hg.symm.trans hg'))
        cases hd.symm.trans hends
    · exact ⟨i, f, hi, hf⟩
  · rintro ⟨i, f, hi, hf⟩
    rcases Document.ofGraph_of_isPlain plain with ⟨-, hnone⟩ | ⟨_, f', hends, -, -⟩
    · exact absurd hf (hnone i f hi)
    · exact ⟨f', .value hread hyaml hg (Document.refused_of_ofGraph hends) hends⟩

end Yaml

end SecurityConfig
end RegistryAuth
