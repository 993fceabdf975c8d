import RegistryAuth.Url.Reference

/-!
# Naming a registry

A registry is named on the command line with or without a scheme, and perhaps with
more behind its name.  `Registry.host` takes its host and port out, and `Registry.url`
makes the reference at which one of its paths is found.
-/

namespace RegistryAuth
namespace Registry

/-- The text with a scheme in front, if it has none. -/
def ensureScheme (addr : String) (scheme : String) : String :=
  if Text.contains [':', '/', '/'] addr.toList then addr else scheme ++ "://" ++ addr

/-- The scheme used where none is given. -/
def defaultScheme : String := "https"

/-- The path at which a registry answers whether it is one. -/
def defaultPath : String := "/v2/"

/-- The parts of a registry's name: its scheme, and its host and port as they are
written.  Where no authority can be told apart, what stands before the first slash is
taken for it. -/
def parts (addr : String) : Except ReferenceError (List Char × List Char) := do
  let r ← Reference.split [] (ensureScheme addr defaultScheme).toList
  let (path, _) := Reference.splitParams r.scheme r.path
  let host := if r.authority.isEmpty then (Reference.before '/' path).1 else r.authority
  return (r.scheme, host)

/-- The host and port of a registry as they are written. -/
def host (addr : String) : Except ReferenceError String :=
  (parts addr).map fun p => String.ofList p.2

/-- The reference to a path of a registry. -/
def url (addr : String) (path : String) : Except ReferenceError String :=
  (parts addr).map fun (scheme, host) =>
    let path := if path.toList.head? = some '/' then path else "/" ++ path
    String.ofList scheme ++ "://" ++ String.ofList host ++ path

end Registry
end RegistryAuth
