import RegistryAuth.Config.Security
import RegistryAuth.Config.Shape
import RegistryAuth.Text.Utf8

/-!
# Reading a configuration from a document

A configuration is a mapping with sections in it, each a mapping again.  Members that
are unknown are passed over, and members that are missing have the default of their
place.  A value of the wrong kind is an offence; `Schema.config` finds all of them, in
the order in which the places are listed here, and none below an offence.

A text may also be given as bytes in UTF-8; a flag may also be one of a few words, or
the number zero or one.  A text with half of a surrogate pair is neither a text nor a word.
-/

namespace RegistryAuth
namespace Schema

/-- What is wrong with a value at some place. -/
inductive Problem where
  | notText
  | badBytes
  | unclearFlag
  | notFlag
  | notSection (name : String)
  deriving Repr, DecidableEq

/-- The kind of the problem. -/
def Problem.kind : Problem → String
  | .notText => "string_type"
  | .badBytes => "string_unicode"
  | .unclearFlag => "bool_parsing"
  | .notFlag => "bool_type"
  | .notSection _ => "model_type"

/-- The words for the problem. -/
def Problem.message : Problem → String
  | .notText => "Input should be a valid string"
  | .badBytes =>
    "Input should be a valid string, unable to parse raw data as a unicode string"
  | .unclearFlag => "Input should be a valid boolean, unable to interpret input"
  | .notFlag => "Input should be a valid boolean"
  | .notSection name => "Input should be a valid dictionary or instance of " ++ name

/-- A problem and the names that lead to its place. -/
structure Offence where
  path : List String
  problem : Problem
  deriving Repr, DecidableEq

/-- What reading a place gives: a value, or all offences at and below it. -/
abbrev Checked (α : Type) := Except (List Offence) α

/-- Combines two results; the offences of both are kept in order. -/
def Checked.both {α β : Type} (a : Checked α) (b : Checked β) : Checked (α × β) :=
  match a, b with
  | .ok x, .ok y => .ok (x, y)
  | .ok _, .error es => .error es
  | .error es, .ok _ => .error es
  | .error es, .error es' => .error (es ++ es')

/-- Places the offences under a name. -/
def Checked.under {α : Type} (name : String) (a : Checked α) : Checked α :=
  a.mapError fun es => es.map fun e => { e with path := name :: e.path }

/-- A single offence. -/
def offence {α : Type} (p : Problem) : Checked α := .error [⟨[], p⟩]

/-- A text. -/
def text {α : Type} : Shape α → Checked String
  | .text s => .ok s
  | .broken => offence .badBytes
  | .bytes bs =>
    match Text.Utf8.decodeString bs with
    | .ok s => .ok s
    | .error _ => offence .badBytes
  | _ => offence .notText

/-- The words for a flag that is set, and for one that is not. -/
def flagWord? (word : String) : Option Bool :=
  let lower := String.ofList (word.toList.map Char.toLower)
  if ["1", "on", "t", "true", "y", "yes"].contains lower then some true
  else if ["0", "off", "f", "false", "n", "no"].contains lower then some false
  else none

/-- A flag given as a word. -/
def wordFlag (word : String) : Checked Bool :=
  match flagWord? word with
  | some b => .ok b
  | none => offence .unclearFlag

/-- A flag given as a number of at most 64 bits. -/
def numberFlag (i : Int) : Checked Bool :=
  if i = 0 then .ok false
  else if i = 1 then .ok true
  else if -0x8000000000000000 ≤ i ∧ i < 0x8000000000000000 then offence .unclearFlag
  else offence .notFlag

/-- A flag. -/
def flag {α : Type} : Shape α → Checked Bool
  | .bool b => .ok b
  | .int i => numberFlag i
  | .float d =>
    match d.toInt? with
    | some i => numberFlag i
    | none => offence .notFlag
  | .text s => wordFlag s
  | .broken => offence .badBytes
  | .bytes bs =>
    match Text.Utf8.decodeString bs with
    | .ok s => wordFlag s
    | .error _ => offence .unclearFlag
  | _ => offence .notFlag

/-- Reads the member of a section, or gives the default where it is missing. -/
def member {α β : Type} (look : α → Shape α) (find : String → Option α) (name : String)
    (dflt : β) (read : Shape α → Checked β) : Checked β :=
  match find name with
  | none => .ok dflt
  | some v => (read (look v)).under name

/-- Reads a section: its members, or an offence where it is no mapping. -/
def «section» {α β : Type} (name : String) (read : (String → Option α) → Checked β) :
    Shape α → Checked β
  | .mapping find => read find
  | _ => offence (.notSection name)

/-- A section that may be null. -/
def optional {α β : Type} (read : Shape α → Checked β) : Shape α → Checked (Option β)
  | .null => .ok none
  | s => (read s).map some

/-- A section that holds a path. -/
def path {α : Type} (look : α → Shape α) : Shape α → Checked String :=
  «section» "_PathDoc" fun find => member look find "path" "" text

/-- The section of certificate authorities. -/
def authorities {α : Type} (look : α → Shape α) : Shape α → Checked String :=
  «section» "_CADoc" fun find => member look find "cert" "" (path look)

/-- The section of the client's certificate: its path, the key's, the passphrase's, and
whether the whole is turned off. -/
def client {α : Type} (look : α → Shape α) :
    Shape α → Checked (String × String × String × Bool) :=
  «section» "_ClientDoc" fun find =>
    (member look find "cert" "" (path look)).both <|
    (member look find "key" "" (path look)).both <|
    (member look find "passphrase" "" (path look)).both <|
    member look find "disabled" false flag

/-- The section of certificates. -/
def tls {α : Type} (look : α → Shape α) : Shape α → Checked TlsConfig :=
  «section» "TLSDoc" fun find =>
    ((member look find "name" "" text).both <|
      (member look find "ca" "" (authorities look)).both <|
      (member look find "client" ("", "", "", false) (client look)).both <|
      member look find "insecure_skip_verify" false flag).map
    fun (name, ca, (cert, key, passphrase, disabled), skip) =>
      ⟨name, ca, cert, key, passphrase, disabled, skip⟩

/-- The section of static credentials. -/
def basic {α : Type} (look : α → Shape α) : Shape α → Checked BasicAuth :=
  «section» "BasicAuthDoc" fun find =>
    ((member look find "username" "" text).both <|
      (member look find "password" "" text).both <|
      (member look find "auth" "" text).both <|
      (member look find "email" "" text).both <|
      (member look find "serveraddress" "" text).both <|
      (member look find "identitytoken" "" text).both <|
      (member look find "registrytoken" "" text).both <|
      member look find "password_file" "" text).map
    fun (username, password, auth, email, server, identity, registry, file) =>
      ⟨username, password, auth, email, server, identity, registry, file⟩

/-- The name under which the helper is found: the first of two that is there. -/
def helperName {α : Type} (find : String → Option α) : String :=
  if (find "credsStore").isSome then "credsStore"
  else if (find "creds_store").isSome then "creds_store"
  else "credsStore"

/-- A whole configuration. -/
def config {α : Type} (look : α → Shape α) : Shape α → Checked SecurityConfig :=
  «section» "SecurityDoc" fun find =>
    ((member look find "tls" none (optional (tls look))).both <|
      (member look find "basic" none (optional (basic look))).both <|
      member look find (helperName find) "" text).map
    fun (tls, basic, helper) => ⟨tls, basic, helper⟩

end Schema
end RegistryAuth
