import RegistryAuth.Credential.Identity
import RegistryAuth.Http.Headers
import RegistryAuth.Proofs.Text.Base64

/-!
# Credentials are written in ASCII

A name and a password may hold any characters, but the header that presents them is
written in base64.  So it fits the headers of every request, whether they have been read
or not (`Authorization.isAscii_of_mem_basic`); setting it can never fail.  A token is presented
as it is, and then the header is ASCII if the token is (`Authorization.isAscii_of_mem_bearer`).
-/

namespace RegistryAuth
namespace Authorization

/-- The header for a name and a password is ASCII, whatever they hold. -/
theorem isAscii_of_mem_basic {username password : String} {c : Char}
    (hc : c ∈ (basic username password).toList) : Headers.isAscii c = true := by
  have hword : ∀ d ∈ "Basic ".toList, d.toNat < 128 := by simp
  rw [basic, String.toList_append, List.mem_append] at hc
  rw [Headers.isAscii, decide_eq_true_iff]
  rcases hc with hc | hc
  · exact hword c hc
  · rw [String.toList_ofList] at hc
    exact Text.Base64.toNat_lt_of_mem_encode hc

/-- A token in ASCII is presented in ASCII. -/
theorem isAscii_of_mem_bearer {token : String}
    (htoken : ∀ c ∈ token.toList, Headers.isAscii c = true) :
    ∀ c ∈ (bearer token).toList, Headers.isAscii c = true := by
  have hword : ∀ c ∈ "Bearer ".toList, Headers.isAscii c = true :=
    List.all_eq_true.mp (by decide)
  intro c hc
  rw [bearer, String.toList_append, List.mem_append] at hc
  exact hc.elim (hword c) (htoken c)

end Authorization
end RegistryAuth
