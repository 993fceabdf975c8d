import RegistryAuth.Credential.Helper
import RegistryAuth.Credential.Static

/-!
# Resolving the identity

The one identity that is presented to a registry.  Static credentials are read first,
so that a password file that cannot be read is always reported; a helper, where one is
named, then replaces them entirely, and its failure is never made up for by them.
-/

namespace RegistryAuth

/-- Why no identity is found. -/
inductive ResolutionError where
  | static (e : StaticError)
  | helper (name : String) (e : HelperFailure)
  deriving Repr, DecidableEq

namespace ResolutionError

/-- The step that a reported failure is put down to. -/
def step? : ResolutionError → Option String
  | .static (.passwordFile _) => some "basic auth"
  | .helper name (.helper _) => some ("credential helper " ++ name)
  | _ => none

/-- The words for the cause. -/
def causeMessage : ResolutionError → String
  | .static e => e.message
  | .helper _ e => e.message

/-- The words for the failure; one that no step reports stands for itself. -/
def message (e : ResolutionError) : String :=
  match e.step? with
  | some step => "get credentials: " ++ step ++ ": " ++ e.causeMessage
  | none => e.causeMessage

end ResolutionError

/-- The identity of static credentials, or of nobody where there are none. -/
def staticIdentity (basic : Option BasicAuth) (fs : Files) : Except ResolutionError Identity :=
  match basic with
  | none => .ok .anonymous
  | some b => (b.identity fs).mapError .static

/-- The identity to present to `server`. -/
def resolveIdentity {σ : Type} (source : HelperSource σ) (fs : Files) (basic : Option BasicAuth)
    (helper server : String) (s : σ) : Except ResolutionError Identity × σ :=
  match staticIdentity basic fs with
  | .error e => (.error e, s)
  | .ok identity =>
    if helper.isEmpty then (.ok identity, s)
    else
      let (got, s) := source.get helper server (source.make helper s)
      match got with
      | .error e => (.error (.helper helper e), s)
      | .ok c => (.ok (c.identity server), s)

end RegistryAuth
