import RegistryAuth.Json.Value

/-!
# Looking into documents

A configuration is read from documents of several kinds.  What the reader of a
configuration asks of a document is what shape a value has, and which value a mapping
holds under a name; `Shape` is the answer.  Whatever can be given a shape can be read.
-/

namespace RegistryAuth

/-- The shape of a document value whose parts are of the type `α`.  A text that holds half
of a surrogate pair is `broken`. -/
inductive Shape (α : Type) where
  | null
  | bool (b : Bool)
  | int (i : Int)
  | float (d : Double)
  | text (s : String)
  | broken
  | bytes (bs : List UInt8)
  | mapping (member : String → Option α)
  | other

/-- The shape of a JSON value. -/
def Json.shape : Json → Shape Json
  | .null => .null
  | .bool b => .bool b
  | .int i => .int i
  | .float d => .float d
  | .str (.whole s) => .text s
  | .str (.broken ..) => .broken
  | .arr _ => .other
  | .obj members => .mapping fun key => members.lookup (.whole key)

end RegistryAuth
