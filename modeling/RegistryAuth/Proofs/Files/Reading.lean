import Mathlib
import RegistryAuth.Files

/-!
# What a read depends on

A read of a path depends on what stands there and on nothing else.  It can fail in three
ways: the operating system refuses it, the path cannot be written, or the bytes are no
text.  `Files.HoldsNoText` puts the last two together, which are no failures of the
system.
-/

namespace RegistryAuth
namespace Files

variable {fs fs' : Files} {path : String}

theorem isDirectory_congr (h : fs'.state path = fs.state path) :
    fs'.isDirectory path = fs.isDirectory path := by
  rw [isDirectory, isDirectory, h]

theorem readExact_congr (h : fs'.state path = fs.state path) :
    fs'.readExact path = fs.readExact path := by
  simp only [readExact, readBytes, openAt, h]

theorem readLines_congr (h : fs'.state path = fs.state path) :
    fs'.readLines path = fs.readLines path := by
  rw [readLines, readLines, readExact_congr h]

theorem openAt_eq_ok {shown : Option String} {bytes : List UInt8} :
    fs.openAt path shown = .ok bytes ↔ fs.state path = .file bytes := by
  rw [openAt]
  cases fs.state path <;> simp

theorem readExact_of_hasNul (h : hasNul path = true) :
    fs.readExact path = .error .nulInPath := by
  simp only [readExact, readBytes, h, if_true]

theorem readExact_of_openAt_eq_error {e : SystemError} (hnul : hasNul path = false)
    (h : fs.openAt path (some path) = .error e) :
    fs.readExact path = .error (.system e) := by
  simp only [readExact, readBytes, hnul, h, Bool.false_eq_true, if_false]

theorem readExact_of_file {bytes : List UInt8} (hnul : hasNul path = false)
    (h : fs.state path = .file bytes) :
    fs.readExact path = (Text.Utf8.decode bytes).mapError .text := by
  simp only [readExact, readBytes, hnul, openAt_eq_ok.mpr h, Bool.false_eq_true, if_false]
  cases Text.Utf8.decode bytes <;> rfl

theorem readExact_eq_error_nulInPath :
    fs.readExact path = .error .nulInPath ↔ hasNul path = true := by
  refine ⟨fun h => ?_, readExact_of_hasNul⟩
  by_contra hnul
  rw [Bool.not_eq_true] at hnul
  cases hopen : fs.openAt path (some path) with
  | ok bytes =>
    rw [readExact_of_file hnul (openAt_eq_ok.mp hopen)] at h
    cases hdecode : Text.Utf8.decode bytes <;> simp [hdecode, Except.mapError] at h
  | error e =>
    rw [readExact_of_openAt_eq_error hnul hopen] at h
    cases h

/-- A read fails because of the bytes where they are no text. -/
theorem readExact_eq_error_text {d : Text.DecodeError} :
    fs.readExact path = .error (.text d) ↔
      hasNul path = false ∧ ∃ bytes, fs.state path = .file bytes ∧
        Text.Utf8.decode bytes = .error d := by
  cases hnul : hasNul path with
  | true => simp [readExact_of_hasNul hnul]
  | false =>
    cases hopen : fs.openAt path (some path) with
    | ok bytes =>
      have hfile := openAt_eq_ok.mp hopen
      rw [readExact_of_file hnul hfile, hfile]
      cases hdecode : Text.Utf8.decode bytes <;> simp [Except.mapError, hdecode]
    | error e =>
      rw [readExact_of_openAt_eq_error hnul hopen]
      refine iff_of_false nofun ?_
      rintro ⟨-, bytes, hfile, -⟩
      rw [openAt_eq_ok.mpr hfile] at hopen
      cases hopen

theorem readLines_eq_error {e : ReadError} :
    fs.readLines path = .error e ↔ fs.readExact path = .error e := by
  rw [readLines]
  cases fs.readExact path <;> simp [Except.map]

/-- The path cannot be written, or the file at it is no text. -/
def HoldsNoText (fs : Files) (path : String) : Prop :=
  hasNul path = true ∨
    ∃ bytes e, fs.state path = .file bytes ∧ Text.Utf8.decode bytes = .error e

/-- A read that fails is put down to the operating system unless the path or the file at it
is no text. -/
theorem holdsNoText_iff :
    fs.HoldsNoText path ↔
      fs.readExact path = .error .nulInPath ∨ ∃ e, fs.readExact path = .error (.text e) := by
  cases hnul : hasNul path with
  | true => exact iff_of_true (.inl hnul) (.inl (readExact_of_hasNul hnul))
  | false =>
    cases hopen : fs.openAt path (some path) with
    | ok bytes =>
      have hfile := openAt_eq_ok.mp hopen
      rw [readExact_of_file hnul hfile, HoldsNoText, hnul, hfile]
      cases hdecode : Text.Utf8.decode bytes <;> simp [Except.mapError, hdecode]
    | error e =>
      refine iff_of_false ?_ ?_
      · rintro (h | ⟨bytes, _, hfile, -⟩)
        · exact absurd (hnul.symm.trans h) Bool.false_ne_true
        · rw [openAt_eq_ok.mpr hfile] at hopen
          cases hopen
      · rw [readExact_of_openAt_eq_error hnul hopen]
        rintro (h | ⟨_, h⟩) <;> cases h

/-- What is opened and is text is read. -/
theorem exists_readExact (htext : ¬fs.HoldsNoText path)
    (hopen : ∀ e, fs.openAt path (some path) ≠ .error e) : ∃ cs, fs.readExact path = .ok cs := by
  rw [holdsNoText_iff] at htext
  cases hread : fs.readExact path with
  | ok cs => exact ⟨cs, rfl⟩
  | error e =>
    cases e with
    | system e =>
      cases hnul : hasNul path with
      | true => rw [readExact_of_hasNul hnul] at hread; cases hread
      | false =>
        simp only [readExact, readBytes, hnul, Bool.false_eq_true, if_false] at hread
        cases hopened : fs.openAt path (some path) with
        | error e => exact absurd hopened (hopen e)
        | ok bytes =>
          rw [hopened] at hread
          cases hdecoded : Text.Utf8.decode bytes <;> simp [hdecoded] at hread
    | nulInPath => exact absurd (.inl hread) htext
    | text e => exact absurd (.inr ⟨e, hread⟩) htext

end Files
end RegistryAuth
