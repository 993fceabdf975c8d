import RegistryAuth.Number.Written
import RegistryAuth.Text.Quoted

/-!
# Failures of the operating system

Opening a file and starting a program can fail for reasons that only the operating
system knows.  Such a failure has a number and words for it, and mostly the path that
it is about.
-/

namespace RegistryAuth

/-- A failure as the operating system reports it. -/
structure SystemError where
  number : Int
  text : String
  path : Option String
  deriving Repr, DecidableEq

namespace SystemError

/-- The words for the failure; the path stands in quotes. -/
def message (e : SystemError) : String :=
  "[Errno " ++ String.ofList (intText e.number) ++ "] " ++ e.text ++
    (match e.path with
      | some path => ": " ++ Text.quotedString path
      | none => "")

/-- The number of the failure that nothing is found at a path. -/
def missingNumber : Int := 2

/-- Nothing is found at the path. -/
def missing (path : Option String) : SystemError :=
  ⟨missingNumber, "No such file or directory", path⟩

/-- A file stands where the path needs a directory. -/
def notDirectory (path : Option String) : SystemError := ⟨20, "Not a directory", path⟩

/-- A directory stands where a file is wanted. -/
def isDirectory (path : Option String) : SystemError := ⟨21, "Is a directory", path⟩

/-- The path, or a name in it, is too long. -/
def nameTooLong (path : Option String) : SystemError := ⟨36, "File name too long", path⟩

/-- Whether the failure is that nothing is found. -/
def isMissing (e : SystemError) : Bool := e.number == missingNumber

end SystemError
end RegistryAuth
