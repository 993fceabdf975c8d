import RegistryAuth.Config.Security
import RegistryAuth.Text.Blank
import RegistryAuth.Tls.Library

/-!
# Contexts for secure connections

`TlsConfig.buildAlong` makes the context with which certificates are checked: the
authorities are loaded in the order in which they are listed, then the client's own
certificate, and only then may verification be dropped.  The first failure ends it.
The calls that were made are part of the result.
-/

namespace RegistryAuth

/-- A context: whether certificates are verified, and whether they must name the
host. -/
structure TlsContext where
  verifies : Bool
  checksHostname : Bool
  deriving Repr, DecidableEq

/-- What a new context does. -/
def TlsContext.standard : TlsContext := ⟨true, true⟩

/-- What a context does that verifies nothing. -/
def TlsContext.lax : TlsContext := ⟨false, false⟩

/-- Why no context is made.  The last three are faults of a path or of the passphrase that
are reported as they are. -/
inductive TlsError where
  | authorities (path : String) (e : TlsFailure)
  | keyWithoutCert
  | passphrase (e : SystemError)
  | clientCert (path : String) (e : TlsFailure)
  | nulInPath
  | passphraseText (e : Text.DecodeError)
  | longPassphrase
  deriving Repr, DecidableEq

/-- The words for the failure. -/
def TlsError.message : TlsError → String
  | .authorities path e => "load ca certs " ++ path ++ ": " ++ e.message
  | .keyWithoutCert => "client key configured without a client cert"
  | .passphrase e => "read client passphrase: " ++ e.message
  | .clientCert path e => "load client cert " ++ path ++ ": " ++ e.message
  | .nulInPath => TlsFailure.nulInPath.message
  | .passphraseText e => e.message
  | .longPassphrase => TlsFailure.longPassphrase.message

/-- The calls that were made, and the context; none where the section is turned off. -/
structure TlsBuild where
  calls : List TlsCall
  result : Except TlsError (Option TlsContext)

namespace TlsConfig

/-- How a failure is reported: by the words for a refusal, and else as it is. -/
def reported (words : TlsFailure → TlsError) : TlsFailure → TlsError
  | .nulInPath => .nulInPath
  | .longPassphrase => .longPassphrase
  | e => words e

/-- The authorities: files and directories with colons between them. -/
def authorityPaths (value : String) : List String :=
  ((Text.splitOn ':' value.toList).filter fun p => !p.isEmpty).map String.ofList

/-- The call that loads an authority. -/
def authorityCall (fs : Files) (path : String) : TlsCall :=
  if fs.isDirectory path then .verifyDirectory path else .verifyFile path

/-- Loads authorities, behind the calls `made`, until one fails: the calls made here, and
the failure. -/
def loadAuthoritiesAlong (course : TlsCourse) (fs : Files) :
    List TlsCall → List String → List TlsCall × Option TlsError
  | _, [] => ([], none)
  | made, path :: paths =>
    let call := authorityCall fs path
    match course made call with
    | some e => ([call], some (reported (.authorities path) e))
    | none =>
      let (calls, failure) := loadAuthoritiesAlong course fs (made ++ [call]) paths
      (call :: calls, failure)

/-- The passphrase, if a file for it is named: its text without the blanks around
it. -/
def readPassphrase (fs : Files) (path : String) : Except TlsError (Option String) :=
  if path.isEmpty then .ok none
  else
    match fs.readLines path with
    | .ok cs => .ok (some (String.ofList (Text.trim cs)))
    | .error (.system e) => .error (.passphrase e)
    | .error .nulInPath => .error .nulInPath
    | .error (.text e) => .error (.passphraseText e)

/-- Loads the client's certificate, if there is one. -/
def loadClient (cfg : TlsConfig) (lib : TlsLibrary) (fs : Files) :
    List TlsCall × Option TlsError :=
  if cfg.certPath.isEmpty && cfg.keyPath.isEmpty then ([], none)
  else if cfg.certPath.isEmpty then ([], some .keyWithoutCert)
  else
    match readPassphrase fs cfg.passphrasePath with
    | .error e => ([], some e)
    | .ok passphrase =>
      let call := TlsCall.certChain cfg.certPath
        (if cfg.keyPath.isEmpty then none else some cfg.keyPath) passphrase
      ([call], (lib call).map (reported (.clientCert cfg.certPath)))

/-- Makes the context, along a course of calls, of which those that load something may be
refused. -/
def buildAlong (cfg : TlsConfig) (course : TlsCourse) (fs : Files) : TlsBuild :=
  if cfg.disabled then ⟨[], .ok none⟩
  else
    let (loads, failure) :=
      loadAuthoritiesAlong course fs [.createContext] (authorityPaths cfg.caPath)
    let calls := .createContext :: loads
    match failure with
    | some e => ⟨calls, .error e⟩
    | none =>
      let (more, failure) := cfg.loadClient (course calls) fs
      let calls := calls ++ more
      match failure with
      | some e => ⟨calls, .error e⟩
      | none =>
        if cfg.skipVerify then
          ⟨calls ++ [.dropHostnameCheck, .dropVerification], .ok (some .lax)⟩
        else ⟨calls, .ok (some .standard)⟩

end TlsConfig
end RegistryAuth
