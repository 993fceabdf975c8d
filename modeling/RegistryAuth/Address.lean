import RegistryAuth.Number.Reading
import RegistryAuth.Unicode.LetterCase

/-!
# Registry addresses

The transport that carries credentials belongs to one registry, named by an address:
a host with or without a port, behind a scheme or not, and perhaps with a path.
`Address.parse` takes host and port out of it.  The port is what follows the last
colon, if that is digits and no second colon stands before it, so that the groups of a
bare IPv6 address are not taken for a port; brackets around such an address fall
away.  `Address.format` writes an address.
-/

namespace RegistryAuth

/-- The host, in lower case, and the port that an address names. -/
structure Address where
  host : String
  port : Option Nat
  deriving Repr, DecidableEq

namespace Address

/-- The part of an address that holds host and port, in lower case. -/
def authority (addr : List Char) : List Char :=
  let afterScheme := match Text.cutText? [':', '/', '/'] addr with
    | some (_, rest) => rest
    | none => addr
  let beforePath := match Text.cut? (· = '/') afterScheme with
    | some (front, _) => front
    | none => afterScheme
  Unicode.lower beforePath

/-- A host without the brackets around it. -/
def stripBrackets (cs : List Char) : List Char := Text.trimBoth (fun c => c = '[' || c = ']') cs

/-- Host and port of an address.  A port of digits that have no decimal value, or of
too many digits, is no number. -/
def parseChars (addr : List Char) : Except NumberError Address :=
  let netloc := authority addr
  let noPort : Except NumberError Address := .ok ⟨String.ofList (stripBrackets netloc), none⟩
  match Text.cutLast? (· = ':') netloc with
  | none => noPort
  | some (host, port) =>
    if !port.isEmpty && port.all Unicode.isDigit && host.getLast? != some ':' then
      match Number.whole 10 port with
      | .error e => .error e
      | .ok n => .ok ⟨String.ofList (stripBrackets host), some n.toNat⟩
    else noPort

/-- Host and port of an address. -/
def parse (addr : String) : Except NumberError Address := parseChars addr.toList

/-- An address from its parts; a scheme is followed by `://`, a path begins with a
slash, and the port is written in digits. -/
def format (scheme : Option (List Char)) (host : List Char) (port : Option (List Char))
    (path : List Char) : List Char :=
  (match scheme with
    | some s => s ++ [':', '/', '/']
    | none => []) ++ host ++
  (match port with
    | some p => ':' :: p
    | none => []) ++ path

end Address
end RegistryAuth
