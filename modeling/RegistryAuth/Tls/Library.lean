import RegistryAuth.Files
import RegistryAuth.Text.Cut

/-!
# The certificate library

What is asked of the library that checks certificates, and how it refuses.  A
`TlsLibrary` says for each call whether and how it fails; `TlsLibrary.overFiles` is the
one that looks at the files that are named.  A `TlsCourse` says it for each place in a
sequence of calls, so that the same call may be answered in one way now and in another
later.
-/

namespace RegistryAuth

/-- A call of the library.  `certChain` takes the certificate, the key if it is in a
file of its own, and the passphrase. -/
inductive TlsCall where
  | createContext
  | verifyDirectory (path : String)
  | verifyFile (path : String)
  | certChain (cert : String) (key passphrase : Option String)
  | dropHostnameCheck
  | dropVerification
  deriving Repr, DecidableEq

/-- How a call fails: the operating system refuses, the library does, the path cannot be
written, or the key is encrypted and the passphrase too long for it. -/
inductive TlsFailure where
  | system (e : SystemError)
  | library (text : String)
  | nulInPath
  | longPassphrase
  deriving Repr, DecidableEq

/-- The words for the failure. -/
def TlsFailure.message : TlsFailure → String
  | .system e => e.message
  | .library text => text
  | .nulInPath => "embedded null byte"
  | .longPassphrase => "password cannot be longer than 1024 bytes"

/-- A library: how each call fails, if it does. -/
abbrev TlsLibrary := TlsCall → Option TlsFailure

/-- A course of calls: how each call fails, if it does, behind the calls made so far. -/
abbrev TlsCourse := List TlsCall → TlsLibrary

/-- Whether the failure is one of the operating system or of the library; the others are
faults of what is handed to a call. -/
def TlsFailure.isRefusal : TlsFailure → Bool
  | .system _ | .library _ => true
  | .nulInPath | .longPassphrase => false

namespace TlsLibrary

/-- Whether the lines of a file open a block whose name ends in `name`. -/
def hasBlock (name : String) (bytes : List UInt8) : Bool :=
  let cs := bytes.map fun b => Char.ofNat b.toNat
  let ending := (name ++ "-----").toList.reverse
  (Text.splitOn '\n' cs).any fun line =>
    (Text.dropFront? "-----BEGIN ".toList line).isSome &&
      (Text.dropFront? ending (Text.trimBoth (fun c => c.toNat ≤ 32) line).reverse).isSome

/-- The bytes of a file of certificates; the failure names no path. -/
def openPem (fs : Files) (path : String) : Except TlsFailure (List UInt8) :=
  if Files.hasNul path then .error .nulInPath
  else (fs.openAt path none).mapError .system

/-- Fails unless the file at `path` holds a block that ends in `name`. -/
def needBlock (fs : Files) (name text path : String) : Option TlsFailure :=
  match openPem fs path with
  | .error e => some e
  | .ok bytes => if hasBlock name bytes then none else some (.library text)

/-- The library on the files of a machine.  It asks for no more than that a file can be read
and opens a block of the name. -/
def overFiles (fs : Files) : TlsLibrary
  | .verifyFile path =>
    needBlock fs "CERTIFICATE"
      "[X509: NO_CERTIFICATE_OR_CRL_FOUND] no certificate or crl found" path
  | .certChain cert key _ =>
    match needBlock fs "CERTIFICATE" "[SSL] PEM lib" cert with
    | some e => some e
    | none => needBlock fs "PRIVATE KEY" "[SSL] PEM lib" (key.getD cert)
  | _ => none

end TlsLibrary

/-- The library on the files of a machine, which answers a call in the same way each time. -/
def TlsCourse.overFiles (fs : Files) : TlsCourse := fun _ => TlsLibrary.overFiles fs

end RegistryAuth
