import RegistryAuth.Number.Written
import RegistryAuth.Text.Code

/-!
# Document values

The values of a JSON document.  Whole numbers and numbers with a fraction are told
apart, as the text of a document tells them apart, and the members of an object keep
the order in which they were first written; `insert` is the one way to add a member.
Texts and names may hold halves of surrogate pairs, as they can be written in a document.
-/

namespace RegistryAuth

/-- A JSON value. -/
inductive Json where
  | null
  | bool (b : Bool)
  | int (i : Int)
  | float (d : Double)
  | str (s : CodeText)
  | arr (items : List Json)
  | obj (members : List (CodeText × Json))
  deriving Repr, Inhabited

namespace Json

/-- Sets a member: a new one goes to the end, a known one keeps its place. -/
def insert (key : CodeText) (value : Json) : List (CodeText × Json) → List (CodeText × Json)
  | [] => [(key, value)]
  | (k, v) :: rest => if k = key then (k, value) :: rest else (k, v) :: insert key value rest

/-- An object from its members as they are written, a later one replacing an earlier
one of the same name. -/
def ofMembers (members : List (CodeText × Json)) : Json :=
  .obj (members.foldl (fun acc kv => insert kv.1 kv.2 acc) [])

/-- The member of that name. -/
def get? (key : String) : Json → Option Json
  | .obj members => members.lookup (.whole key)
  | _ => none

/-- Whether the value says anything: null, false, zero and whatever is empty does
not. -/
def isTruthy : Json → Bool
  | .null => false
  | .bool b => b
  | .int i => i != 0
  | .float d => !d.isZero
  | .str s => !s.isEmpty
  | .arr items => !items.isEmpty
  | .obj members => !members.isEmpty

mutual

/-- A value as it stands inside a message: texts in quotes, lists in brackets, objects
in braces. -/
def inner : Json → List Char
  | .null => "None".toList
  | .bool true => "True".toList
  | .bool false => "False".toList
  | .int i => intText i
  | .float d => d.text
  | .str s => s.quoted
  | .arr items => '[' :: innerItems true items ++ [']']
  | .obj members => Char.ofNat 123 :: innerMembers true members ++ [Char.ofNat 125]

/-- The items with a comma and a blank between them. -/
def innerItems (first : Bool) : List Json → List Char
  | [] => []
  | v :: vs => (if first then [] else [',', ' ']) ++ inner v ++ innerItems false vs

/-- The members with a comma and a blank between them. -/
def innerMembers (first : Bool) : List (CodeText × Json) → List Char
  | [] => []
  | (k, v) :: rest =>
    (if first then [] else [',', ' ']) ++ k.quoted ++ [':', ' '] ++ inner v ++
      innerMembers false rest

end

/-- A value as the whole of a message: a text stands as it is. -/
def text : Json → CodeText
  | .str s => s
  | v => .whole (String.ofList (inner v))

@[simp] theorem text_str (s : CodeText) : text (.str s) = s := rfl

@[simp] theorem insert_nil (key : CodeText) (value : Json) :
    insert key value [] = [(key, value)] := rfl

/-- What was set is found. -/
theorem lookup_insert_self (key : CodeText) (value : Json)
    (members : List (CodeText × Json)) :
    (insert key value members).lookup key = some value := by
  induction members with
  | nil => simp [insert]
  | cons kv rest ih =>
    obtain ⟨k, v⟩ := kv
    by_cases h : k = key
    · simp [insert, h]
    · have h' : (key == k) = false := by simpa using fun e => h e.symm
      simp [insert, h, List.lookup_cons, h', ih]

/-- Setting one member changes no other. -/
theorem lookup_insert_of_ne {key other : CodeText} (h : other ≠ key) (value : Json)
    (members : List (CodeText × Json)) :
    (insert key value members).lookup other = members.lookup other := by
  induction members with
  | nil =>
    have : (other == key) = false := by simpa using h
    simp [insert, List.lookup_cons, this]
  | cons kv rest ih =>
    obtain ⟨k, v⟩ := kv
    by_cases hk : k = key
    · subst hk
      have : (other == k) = false := by simpa using h
      simp [insert, List.lookup_cons, this]
    · simp only [insert, hk, if_false, List.lookup_cons, ih]

end Json
end RegistryAuth
