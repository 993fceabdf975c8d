import RegistryAuth.Config.Schema
import RegistryAuth.Files
import RegistryAuth.Json.Parser
import RegistryAuth.Unicode.LetterCase
import RegistryAuth.Yaml.Value

/-!
# Loading a configuration

A configuration is stored as JSON or as YAML; a file whose name ends in `.json` is the
former, any other the latter.  A document that says nothing is a configuration in which
nothing is set.
-/

namespace RegistryAuth

/-- Why a configuration cannot be loaded.  The last four are faults that are not put
down to the document: a path or bytes that are no text, and texts of numbers and times
without a value. -/
inductive LoadError where
  | unreadable (path : String) (e : SystemError)
  | json (e : Json.ParseError)
  | notObject
  | yaml (f : Yaml.Fault)
  | notMapping
  | invalid (offences : List Schema.Offence)
  | nulInPath
  | bytes (e : Text.DecodeError)
  | number (e : NumberError)
  | scalar (e : Yaml.ScalarFault)
  deriving Repr, DecidableEq

/-- The words for the failure. -/
def LoadError.message : LoadError → String
  | .unreadable path e => "read config " ++ path ++ ": " ++ e.message
  | .json e => "parse json: " ++ e.message
  | .notObject => "parse json: top level must be an object"
  | .yaml _ => "parse yaml"
  | .notMapping => "parse yaml: top level must be a mapping"
  | .invalid _ => "invalid security config"
  | .nulInPath => "embedded null byte"
  | .bytes e => e.message
  | .number e => e.message
  | .scalar e => e.message

/-- Whether the failure is put down to the configuration. -/
def LoadError.isConfigError : LoadError → Bool
  | .nulInPath | .bytes _ | .number _ | .scalar _ => false
  | _ => true

namespace SecurityConfig

/-- The configuration in which nothing is set. -/
def empty : SecurityConfig := ⟨none, none, ""⟩

/-- The configuration of a value that says something. -/
def ofValue {α : Type} (look : α → Shape α) (v : α) : Except LoadError SecurityConfig :=
  (Schema.config look (look v)).mapError .invalid

/-- The configuration that a JSON value is. -/
def ofJson (v : Json) : Except LoadError SecurityConfig :=
  if v.isTruthy then ofValue Json.shape v else .ok empty

/-- Loads a configuration stored as JSON. -/
def loadJson (text : String) : Except LoadError SecurityConfig :=
  match Json.parse text with
  | .error (.number e) => .error (.number e)
  | .error e => .error (.json e)
  | .ok (.obj members) => ofJson (.obj members)
  | .ok _ => .error .notObject

/-- Loads a configuration stored as YAML. -/
def loadYaml (text : String) : Except LoadError SecurityConfig :=
  match Yaml.Document.ofText text.toList with
  | .error (.scalar e) => .error (.scalar e)
  | .error f => .error (.yaml f)
  | .ok none => .ok empty
  | .ok (some d) =>
    match d.root with
    | .null => .ok empty
    | .mapping i => ofValue d.look (.mapping i)
    | _ => .error .notMapping

/-- A path without needless parts: no empty names, no dots, no slash at the end. -/
def plainPath (path : String) : String :=
  let cs := path.toList
  let names := (Text.splitOn '/' cs).filter fun n => !n.isEmpty && n != ['.']
  let slashes := cs.takeWhile (· = '/')
  let root := if slashes.length = 2 then ['/', '/'] else slashes.take 1
  let plain := root ++ List.intercalate ['/'] names
  if plain.isEmpty then "." else String.ofList plain

/-- The ending of the last name of a path that has one, with its point. -/
def ending (path : String) : List Char :=
  let name := (Text.splitOn '/' path.toList).getLastD []
  match Text.cutLast? (· = '.') name with
  | some (front, back) => if front.isEmpty || back.isEmpty then [] else '.' :: back
  | none => []

/-- Whether a file is read as JSON. -/
def isJsonPath (path : String) : Bool := Unicode.lower (ending path) = ".json".toList

/-- Loads a configuration from a file. -/
def loadFile (fs : Files) (path : String) : Except LoadError SecurityConfig :=
  let path := plainPath path
  match fs.readLines path with
  | .error (.system e) => .error (.unreadable path e)
  | .error .nulInPath => .error .nulInPath
  | .error (.text e) => .error (.bytes e)
  | .ok cs => if isJsonPath path then loadJson (String.ofList cs) else loadYaml (String.ofList cs)

end SecurityConfig
end RegistryAuth
