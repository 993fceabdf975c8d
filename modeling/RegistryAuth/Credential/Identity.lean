import RegistryAuth.Text.Base64
import RegistryAuth.Text.Utf8

/-!
# Identities

Who a client says it is: a name with a password, or a token that stands for both.
`Authorization` writes the header with which an identity, or a token obtained for it,
is presented.
-/

namespace RegistryAuth

/-- What is presented to a registry, and the address of the server it is meant for. -/
inductive Identity where
  | password (username password serverAddress : String)
  | token (token serverAddress : String)
  deriving Repr, DecidableEq

namespace Identity

/-- The identity of who has no credentials. -/
def anonymous : Identity := .password "" "" ""

/-- Whether there is nothing to present. -/
def isEmpty : Identity → Bool
  | .password user pwd _ => user.isEmpty && pwd.isEmpty
  | .token t _ => t.isEmpty

/-- The address of the server that the identity is meant for. -/
def serverAddress : Identity → String
  | .password _ _ a => a
  | .token _ a => a

end Identity

namespace Authorization

/-- The name and the password as they are presented. -/
def basic (username password : String) : String :=
  "Basic " ++ String.ofList
    (Text.Base64.encode (Text.Utf8.encode (username.toList ++ ':' :: password.toList)))

/-- A token as it is presented. -/
def bearer (token : String) : String := "Bearer " ++ token

end Authorization
end RegistryAuth
