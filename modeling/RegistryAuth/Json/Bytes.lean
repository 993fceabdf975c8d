import RegistryAuth.Json.Parser
import RegistryAuth.Text.Utf8

/-!
# Documents as bytes

The body of an answer is a document in UTF-8, UTF-16 or UTF-32.  A mark at the front
tells which; without one, the zero bytes among the first four do, since a document
begins with two ASCII characters.  In each of the three, half of a surrogate pair may
stand alone.
-/

namespace RegistryAuth
namespace Json

/-- How a document may be encoded.  `marked` says that a byte-order mark stands at the
front and is not part of the text. -/
inductive Encoding where
  | utf8 (marked : Bool)
  | utf16 (bigEndian marked : Bool)
  | utf32 (bigEndian marked : Bool)
  deriving Repr, DecidableEq

/-- The encoding that the first bytes show. -/
def Encoding.detect : List UInt8 → Encoding
  | 0x00 :: 0x00 :: 0xFE :: 0xFF :: _ => .utf32 true true
  | 0xFF :: 0xFE :: 0x00 :: 0x00 :: _ => .utf32 false true
  | 0xFE :: 0xFF :: _ => .utf16 true true
  | 0xFF :: 0xFE :: _ => .utf16 false true
  | 0xEF :: 0xBB :: 0xBF :: _ => .utf8 true
  | a :: b :: c :: d :: _ =>
    if a = 0 then if b = 0 then .utf32 true false else .utf16 true false
    else if b = 0 then if c = 0 ∧ d = 0 then .utf32 false false else .utf16 false false
    else .utf8 false
  | [a, b] => if a = 0 then .utf16 true false else if b = 0 then .utf16 false false else .utf8 false
  | _ => .utf8 false

/-- A number from bytes, the most significant first. -/
def ofBytes (bytes : List UInt8) : Nat := bytes.foldl (fun n b => 256 * n + b.toNat) 0

/-- The half that three bytes would stand for, if a half had bytes in UTF-8. -/
def halfOfBytes? : List UInt8 → Option Half
  | 0xED :: b1 :: b2 :: _ =>
    if 0xA0 ≤ b1.toNat ∧ b1.toNat < 0xC0 ∧ 0x80 ≤ b2.toNat ∧ b2.toNat < 0xC0 then
      some (Fin.ofNat 0x800 ((b1.toNat - 0xA0) * 64 + (b2.toNat - 0x80)))
    else none
  | _ => none

/-- The code points of bytes in UTF-8, from byte `position` on. -/
def decode8 (position : Nat) : List UInt8 → Except Text.DecodeError (List Code)
  | [] => .ok []
  | b :: bs =>
    match Text.Utf8.front b bs with
    | .char c n => (decode8 (position + n) (bs.drop (n - 1))).map (.char c :: ·)
    | .fault f n =>
      match halfOfBytes? (b :: bs) with
      | some h => (decode8 (position + 3) (bs.drop 2)).map (.half h :: ·)
      | none => .error ⟨"utf-8", position, (b :: bs).take n, f⟩
termination_by bytes => bytes.length
decreasing_by all_goals (simp only [List.length_drop, List.length_cons]; omega)

/-- The code points that code units of two bytes stand for, from byte `position` on. -/
def decode16 (bigEndian : Bool) (position : Nat) :
    List UInt8 → Except Text.DecodeError (List Code)
  | [] => .ok []
  | [b] => .error ⟨if bigEndian then "utf-16-be" else "utf-16-le", position, [b], .truncated⟩
  | a :: b :: rest =>
    let unit (a b : UInt8) : Nat := ofBytes (if bigEndian then [a, b] else [b, a])
    let n := unit a b
    match rest with
    | c :: d :: rest' =>
      let m := unit c d
      if 0xD800 ≤ n ∧ n < 0xDC00 ∧ 0xDC00 ≤ m ∧ m < 0xE000 then
        (decode16 bigEndian (position + 4) rest').map (.char (pairChar n m) :: ·)
      else (decode16 bigEndian (position + 2) (c :: d :: rest')).map (.ofNat n :: ·)
    | rest => (decode16 bigEndian (position + 2) rest).map (.ofNat n :: ·)
termination_by bytes => bytes.length

/-- The code points that code units of four bytes stand for, from byte `position` on. -/
def decode32 (bigEndian : Bool) (position : Nat) :
    List UInt8 → Except Text.DecodeError (List Code)
  | [] => .ok []
  | a :: b :: c :: d :: rest =>
    let n := ofBytes (if bigEndian then [a, b, c, d] else [d, c, b, a])
    if 0x110000 ≤ n then
      .error ⟨if bigEndian then "utf-32-be" else "utf-32-le", position, [a, b, c, d], .tooLarge⟩
    else (decode32 bigEndian (position + 4) rest).map (.ofNat n :: ·)
  | bytes => .error ⟨if bigEndian then "utf-32-be" else "utf-32-le", position, bytes, .truncated⟩

/-- The text of a document. -/
def decodeBytes (bytes : List UInt8) : Except Text.DecodeError (List Code) :=
  match Encoding.detect bytes with
  | .utf8 marked => decode8 0 (if marked then bytes.drop 3 else bytes)
  | .utf16 bigEndian marked =>
    if marked then decode16 bigEndian 2 (bytes.drop 2) else decode16 bigEndian 0 bytes
  | .utf32 bigEndian marked =>
    if marked then decode32 bigEndian 4 (bytes.drop 4) else decode32 bigEndian 0 bytes

/-- Why bytes are no document. -/
inductive BytesError where
  | decode (e : Text.DecodeError)
  | parse (e : ParseError)
  deriving Repr, DecidableEq

/-- The words for the failure. -/
def BytesError.message : BytesError → String
  | .decode e => e.message
  | .parse e => e.message

/-- Reads a document from bytes. -/
def parseBytes (bytes : List UInt8) : Except BytesError Json :=
  match decodeBytes bytes with
  | .error e => .error (.decode e)
  | .ok cs =>
    match parseCodes cs with
    | .error e => .error (.parse e)
    | .ok v => .ok v

end Json
end RegistryAuth
