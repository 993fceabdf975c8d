/-!
# Showing secrets

A report shows that a secret is there without showing it: a short one as four stars, a
longer one by its first two and last two characters.
-/

namespace RegistryAuth

/-- What may be shown of a secret. -/
def redact (secret : String) : String :=
  let cs := secret.toList
  if cs.isEmpty then ""
  else if cs.length ≤ 4 then "****"
  else String.ofList (cs.take 2 ++ ['…'] ++ cs.drop (cs.length - 2))

end RegistryAuth
