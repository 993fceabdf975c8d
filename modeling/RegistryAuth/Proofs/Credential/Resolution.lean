import Mathlib
import RegistryAuth.Credential.Resolution

/-!
# How an identity is resolved

The static credentials are read first, and a helper is asked afterwards, if one is named:
`resolveIdentity_eq_error` says which failure of the two is met.

What is asked of helpers is not part of an identity.  So the helpers are watched:
`HelperSource.watched` hands out the same helpers and notes each question, and by
`resolveIdentity_watched` nothing else changes.
-/

namespace RegistryAuth

/-- A question to a source of helpers. -/
inductive HelperCall where
  | make (name : String)
  | get (name server : String)
  deriving Repr, DecidableEq

/-- The same helpers, with the questions to them noted in order. -/
def HelperSource.watched {σ : Type} (source : HelperSource σ) :
    HelperSource (List HelperCall × σ) where
  make name s := (s.1 ++ [.make name], source.make name s.2)
  get name server s :=
    let (got, s') := source.get name server s.2
    (got, s.1 ++ [.get name server], s')

/-- The questions that come of resolving an identity: none, where there is no helper or the
static credentials cannot be read, and else two. -/
def helperCalls (fs : Files) (basic : Option BasicAuth) (helper server : String) :
    List HelperCall :=
  match staticIdentity basic fs with
  | .error _ => []
  | .ok _ => if helper.isEmpty then [] else [.make helper, .get helper server]

theorem helperCalls_cases (fs : Files) (basic : Option BasicAuth) (helper server : String) :
    helperCalls fs basic helper server =
        [HelperCall.make helper, HelperCall.get helper server] ∧
      helper ≠ "" ∧ (∃ identity, staticIdentity basic fs = .ok identity) ∨
    helperCalls fs basic helper server = [] ∧
      ¬(helper ≠ "" ∧ ∃ identity, staticIdentity basic fs = .ok identity) := by
  unfold helperCalls
  cases staticIdentity basic fs with
  | error e => exact .inr ⟨rfl, fun ⟨_, _, h⟩ => by cases h⟩
  | ok identity =>
    by_cases hhelper : helper = ""
    · exact .inr ⟨by simp [hhelper], fun ⟨h, _⟩ => h hhelper⟩
    · exact .inl ⟨by simp [hhelper], hhelper, identity, rfl⟩

theorem staticIdentity_eq_error {basic : Option BasicAuth} {fs : Files} {e : ResolutionError} :
    staticIdentity basic fs = .error e ↔
      ∃ b f, basic = some b ∧ b.identity fs = .error f ∧ e = .static f := by
  cases basic with
  | none => simp [staticIdentity]
  | some b =>
    rw [staticIdentity]
    cases hb : b.identity fs <;> simp [Except.mapError, hb, eq_comm]

variable {σ : Type} {source : HelperSource σ} {s : σ} {fs : Files} {basic : Option BasicAuth}
  {helper server : String}

/-- To watch the helpers changes nothing about the identity. -/
theorem resolveIdentity_watched (calls : List HelperCall) :
    resolveIdentity source.watched fs basic helper server (calls, s) =
      ((resolveIdentity source fs basic helper server s).1,
        calls ++ helperCalls fs basic helper server,
        (resolveIdentity source fs basic helper server s).2) := by
  simp only [resolveIdentity, helperCalls, HelperSource.watched]
  cases staticIdentity basic fs with
  | error e => simp only [List.append_nil]
  | ok identity =>
    cases helper.isEmpty with
    | true => simp only [if_true, List.append_nil]
    | false =>
      simp only [Bool.false_eq_true, if_false, List.append_assoc, List.cons_append,
        List.nil_append]
      cases (source.get helper server (source.make helper s)).1 <;> rfl

/-- The failure to read the static credentials comes first; that of a helper is met only
behind it. -/
theorem resolveIdentity_eq_error {e : ResolutionError} :
    (resolveIdentity source fs basic helper server s).1 = .error e ↔
      staticIdentity basic fs = .error e ∨
        (∃ identity, staticIdentity basic fs = .ok identity) ∧ helper ≠ "" ∧
        ∃ f, (source.get helper server (source.make helper s)).1 = .error f ∧
          e = .helper helper f := by
  unfold resolveIdentity
  cases staticIdentity basic fs with
  | error e' => simp
  | ok identity =>
    by_cases hhelper : helper = ""
    · simp [hhelper]
    · have hempty : helper.isEmpty = false := by simpa using hhelper
      simp only [hempty, Bool.false_eq_true, if_false]
      cases (source.get helper server (source.make helper s)).1 with
      | ok c => simp
      | error f => simp [hhelper, @eq_comm _ e]

end RegistryAuth
