import RegistryAuth.SystemError
import RegistryAuth.Text.Newline
import RegistryAuth.Text.Utf8

/-!
# Files

What the library reads from disk are configuration files, password files, passphrases
and certificates.  `Files` says what stands at each path; everything else that a read
can give follows from that.
-/

namespace RegistryAuth

/-- What stands at a path. -/
inductive FileState where
  | missing
  | blocked
  | tooLong
  | directory
  | file (bytes : List UInt8)
  deriving Repr, DecidableEq

/-- The files of a machine: what stands at each path. -/
structure Files where
  state : String → FileState

/-- Why a file gives no text. -/
inductive ReadError where
  | system (e : SystemError)
  | nulInPath
  | text (e : Text.DecodeError)
  deriving Repr, DecidableEq

namespace Files

/-- The bytes of a file, or why it cannot be opened; `shown` is the path that the
failure names. -/
def openAt (fs : Files) (path : String) (shown : Option String) :
    Except SystemError (List UInt8) :=
  match fs.state path with
  | .missing => .error (.missing shown)
  | .blocked => .error (.notDirectory shown)
  | .tooLong => .error (.nameTooLong shown)
  | .directory => .error (.isDirectory shown)
  | .file bytes => .ok bytes

/-- Whether no path can be written so. -/
def hasNul (path : String) : Bool := path.toList.contains (Char.ofNat 0)

/-- The bytes of a file. -/
def readBytes (fs : Files) (path : String) : Except ReadError (List UInt8) :=
  if hasNul path then .error .nulInPath
  else
    match fs.openAt path (some path) with
    | .error e => .error (.system e)
    | .ok bytes => .ok bytes

/-- The text of a file, as it is. -/
def readExact (fs : Files) (path : String) : Except ReadError (List Char) :=
  match fs.readBytes path with
  | .error e => .error e
  | .ok bytes =>
    match Text.Utf8.decode bytes with
    | .error e => .error (.text e)
    | .ok cs => .ok cs

/-- The text of a file with every line end as a newline. -/
def readLines (fs : Files) (path : String) : Except ReadError (List Char) :=
  (fs.readExact path).map Text.unifyNewlines

/-- Whether a directory stands at the path. -/
def isDirectory (fs : Files) (path : String) : Bool :=
  !hasNul path && fs.state path == .directory

end Files
end RegistryAuth
