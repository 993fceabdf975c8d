import RegistryAuth.Files
import RegistryAuth.Text.Cut

/-!
# A tree of files in memory

A `Tree` lists files and directories by their names from the root.  `Tree.files` says
what stands at a path seen from some directory: a path is walked name by name, a dot
stays, two dots go up, and every name but the last must be a directory's.  A slash at
the end asks for a directory.
-/

namespace RegistryAuth

/-- A file or a directory. -/
inductive Entry where
  | directory
  | file (bytes : List UInt8)
  deriving Repr, DecidableEq

/-- Files and directories by the names that lead to them. -/
structure Tree where
  entries : List (List String × Entry)
  deriving Repr

namespace Tree

/-- The longest name, in bytes. -/
def maxName : Nat := 255

/-- The longest path, in bytes. -/
def maxPath : Nat := 4095

/-- The entry that names lead to; the root is a directory. -/
def entry? (t : Tree) (names : List String) : Option Entry :=
  if names.isEmpty then some .directory else t.entries.lookup names

/-- The names in a path, and whether it must lead to a directory. -/
def namesOf (path : String) : List String × Bool :=
  let parts := (Text.splitOn '/' path.toList).map String.ofList
  let last := parts.getLast?.getD ""
  (parts.filter fun p => p ≠ "" && p ≠ ".", last = "" || last = "." || last = "..")

/-- Follows names from the directory `here`. -/
def walk (t : Tree) (here : List String) : List String → FileState
  | [] =>
    match t.entry? here with
    | none => .missing
    | some .directory => .directory
    | some (.file bytes) => .file bytes
  | name :: names =>
    match t.entry? here with
    | none => .missing
    | some (.file _) => .blocked
    | some .directory =>
      if maxName < name.utf8ByteSize then .tooLong
      else walk t (if name = ".." then here.dropLast else here ++ [name]) names

/-- What stands at a path seen from the directory `here`. -/
def state (t : Tree) (here : List String) (path : String) : FileState :=
  if path = "" then .missing
  else if maxPath < path.utf8ByteSize then .tooLong
  else
    let (names, asDirectory) := namesOf path
    match t.walk (if path.toList.head? = some '/' then [] else here) names with
    | .file bytes => if asDirectory then .blocked else .file bytes
    | found => found

/-- The files seen from a directory. -/
def files (t : Tree) (here : List String) : Files := ⟨t.state here⟩

/-- Sets an entry. -/
def set (t : Tree) (names : List String) (e : Entry) : Tree :=
  ⟨(names, e) :: t.entries.filter fun x => x.1 ≠ names⟩

/-- Makes a directory and those above it. -/
def makeDirectory (t : Tree) (names : List String) : Tree :=
  (List.range names.length).foldl (fun t i => t.set (names.take (i + 1)) .directory) t

/-- Puts an entry at names, with the directories above it. -/
def write (t : Tree) (names : List String) (e : Entry) : Tree :=
  (t.makeDirectory names.dropLast).set names e

/-- Takes away what stands at names. -/
def remove (t : Tree) (names : List String) : Tree :=
  ⟨t.entries.filter fun x => x.1 ≠ names⟩

end Tree
end RegistryAuth
