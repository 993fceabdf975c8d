import RegistryAuth.Seconds

/-!
# Settings of the client

What a client is told that does not depend on the registry.
-/

namespace RegistryAuth

/-- Time limits, whether certificates are verified and redirects followed, and headers
that every request carries. -/
structure Settings where
  timeout : Seconds
  verifyTls : Bool
  followRedirects : Bool
  helperTimeout : Option Seconds
  extraHeaders : List (String × String)
  deriving Repr, DecidableEq

/-- Thirty seconds for a request, none for a helper; certificates are verified and
redirects followed. -/
def Settings.standard : Settings := ⟨.real (.ofInt 30), true, true, none, []⟩

end RegistryAuth
