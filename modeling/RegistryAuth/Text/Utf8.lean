import RegistryAuth.Text.Quoted

/-!
# UTF-8

Texts travel and are stored as UTF-8.  `encode` writes it and `decode` reads it back,
refusing whatever `encode` cannot have written; a refusal says where the offending
bytes start, which they are and what is wrong with them: no character starts so
(`badStart`), the second, third or fourth byte does not go on (`badContinuation`), or
the text ends inside a character (`cutShort`).
-/

namespace RegistryAuth
namespace Text

/-- What is wrong with bytes that should be text. -/
inductive ByteFault where
  | badStart
  | badContinuation
  | cutShort
  | truncated
  | tooLarge
  deriving Repr, DecidableEq

/-- The words for a fault. -/
def ByteFault.message : ByteFault → String
  | .badStart => "invalid start byte"
  | .badContinuation => "invalid continuation byte"
  | .cutShort => "unexpected end of data"
  | .truncated => "truncated data"
  | .tooLarge => "code point not in range(0x110000)"

/-- Bytes that are not text in some encoding: the bytes at fault and where they
start. -/
structure DecodeError where
  encoding : String
  position : Nat
  bytes : List UInt8
  fault : ByteFault
  deriving Repr, DecidableEq

/-- The message shows the byte when it is a single one, and the span otherwise. -/
def DecodeError.message (e : DecodeError) : String :=
  let subject := match e.bytes with
    | [b] => "byte 0x" ++ String.ofList (hexDigits 2 b.toNat) ++ " in position " ++
        toString e.position
    | bs => "bytes in position " ++ toString e.position ++ "-" ++
        toString (e.position + bs.length - 1)
  "'" ++ e.encoding ++ "' codec can't decode " ++ subject ++ ": " ++ e.fault.message

namespace Utf8

/-- The bytes of one character. -/
def encodeChar (c : Char) : List UInt8 :=
  let n := c.toNat
  if n < 0x80 then [UInt8.ofNat n]
  else if n < 0x800 then [UInt8.ofNat (0xC0 + n / 64), UInt8.ofNat (0x80 + n % 64)]
  else if n < 0x10000 then
    [UInt8.ofNat (0xE0 + n / 4096), UInt8.ofNat (0x80 + n / 64 % 64), UInt8.ofNat (0x80 + n % 64)]
  else
    [UInt8.ofNat (0xF0 + n / 262144), UInt8.ofNat (0x80 + n / 4096 % 64),
      UInt8.ofNat (0x80 + n / 64 % 64), UInt8.ofNat (0x80 + n % 64)]

/-- The bytes of a text. -/
def encode (cs : List Char) : List UInt8 := cs.flatMap encodeChar

/-- What is found at the front of a text: a character, or so many bytes at fault. -/
inductive Front where
  | char (c : Char) (length : Nat)
  | fault (f : ByteFault) (length : Nat)
  deriving Repr, DecidableEq

/-- The six bits of a byte that continues a character. -/
def tail? (b : UInt8) : Option Nat :=
  if 0x80 ≤ b.toNat ∧ b.toNat < 0xC0 then some (b.toNat - 0x80) else none

/-- Whether `b` may follow the first byte `n` of a character of three or four bytes:
forms that are too long, halves of surrogate pairs and numbers beyond the character
set are refused here. -/
def seconds (n : Nat) (b : UInt8) : Bool :=
  (tail? b).isSome &&
    !((n = 0xE0 && b.toNat < 0xA0) || (n = 0xED && 0xA0 ≤ b.toNat) ||
      (n = 0xF0 && b.toNat < 0x90) || (n = 0xF4 && 0x90 ≤ b.toNat))

/-- Reads the front of a text that starts with the byte `b`. -/
def front (b : UInt8) (bs : List UInt8) : Front :=
  let n := b.toNat
  if n < 0x80 then .char (Char.ofNat n) 1
  else if n < 0xC2 then .fault .badStart 1
  else if n < 0xE0 then
    match bs with
    | [] => .fault .cutShort 1
    | b1 :: _ =>
      match tail? b1 with
      | none => .fault .badContinuation 1
      | some t1 => .char (Char.ofNat ((n - 0xC0) * 64 + t1)) 2
  else if n < 0xF5 then
    match bs with
    | [] => .fault .cutShort 1
    | b1 :: bs1 =>
      if !seconds n b1 then .fault .badContinuation 1
      else
        match bs1 with
        | [] => .fault .cutShort 2
        | b2 :: bs2 =>
          match tail? b2 with
          | none => .fault .badContinuation 2
          | some t2 =>
            let t1 := b1.toNat - 0x80
            if n < 0xF0 then .char (Char.ofNat ((n - 0xE0) * 4096 + t1 * 64 + t2)) 3
            else
              match bs2 with
              | [] => .fault .cutShort 3
              | b3 :: _ =>
                match tail? b3 with
                | none => .fault .badContinuation 3
                | some t3 =>
                  .char (Char.ofNat ((n - 0xF0) * 262144 + t1 * 4096 + t2 * 64 + t3)) 4
  else .fault .badStart 1

/-- The characters of `bytes`, which start at `position` of the whole text. -/
def decodeFrom (position : Nat) : List UInt8 → Except DecodeError (List Char)
  | [] => .ok []
  | b :: bs =>
    match front b bs with
    | .char c n => (decodeFrom (position + n) (bs.drop (n - 1))).map (c :: ·)
    | .fault f n => .error ⟨"utf-8", position, (b :: bs).take n, f⟩
termination_by bytes => bytes.length
decreasing_by simp only [List.length_drop, List.length_cons]; omega

/-- The characters of a text in UTF-8. -/
def decode (bytes : List UInt8) : Except DecodeError (List Char) := decodeFrom 0 bytes

/-- The characters of `bytes`, each byte that belongs to none as a backslash escape. -/
def decodeEscaping : List UInt8 → List Char
  | [] => []
  | b :: bs =>
    match front b bs with
    | .char c n => c :: decodeEscaping (bs.drop (n - 1))
    | .fault _ n =>
      ((b :: bs).take n).flatMap (fun x => ['\\', 'x'] ++ hexDigits 2 x.toNat) ++
        decodeEscaping (bs.drop (n - 1))
termination_by bytes => bytes.length
decreasing_by all_goals (simp only [List.length_drop, List.length_cons]; omega)

/-- The bytes of a text. -/
def encodeString (s : String) : List UInt8 := encode s.toList

/-- The text that `bytes` write. -/
def decodeString (bytes : List UInt8) : Except DecodeError String :=
  (decode bytes).map String.ofList

end Utf8
end Text
end RegistryAuth
