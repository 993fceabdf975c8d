import Mathlib.Data.List.TakeWhile
import RegistryAuth.Http.Message
import RegistryAuth.Proofs.Except
import RegistryAuth.Proofs.Text.Utf8

/-!
# Setting one header

A header is set by `put`: its value takes the place of the first header of that name and
the others of the name go away.  What that does is said here once, by what can be read
from the headers afterwards:

* `values_put_self`: under the name there is just the new value;
* `values_put_of_ne`, `erase_put_self`: under every other name all is as it was.

`set` does the same with the bytes that the character set of the headers has for a text, or
refuses (`set_eq_ok`), and it refuses no text in ASCII (`set_of_isAscii`).  Of a whole request,
`Request.Restates` says that only its credentials are new, `Request.Authorized` also which
they are; `Request.authorized_of_authorize` is what `authorize` does.

The body of a request is known by what reading it gives.  A source may give its bytes only
once, so that a request may be another one after it was sent; one with its body at hand says the
same as before (`Request.restates_sent`).
-/

namespace RegistryAuth
namespace Headers

/-! ## Names -/

theorem sameName_iff {a b : String} :
    sameName a b = true ↔ a.toList.map Char.toLower = b.toList.map Char.toLower := by
  rw [sameName, beq_iff_eq]

@[simp] theorem sameName_self (a : String) : sameName a a = true :=
  sameName_iff.mpr rfl

/-- A name that is the same as one of two different names is not the other. -/
theorem sameName_eq_false_of_ne {a b c : String} (hab : sameName a b = true)
    (hbc : sameName b c = false) : sameName a c = false := by
  rw [Bool.eq_false_iff] at hbc ⊢
  intro hac
  exact hbc (sameName_iff.mpr ((sameName_iff.mp hab).symm.trans (sameName_iff.mp hac)))

/-! ## What `put` changes -/

/-- Setting a header keeps, in order, all headers that a test selects, if the test selects
none of that name. -/
theorem filter_replace {p : String × List UInt8 → Bool} {name : String} (value : List UInt8)
    (hp : ∀ item : String × List UInt8, sameName item.1 name = true → p item = false) :
    ∀ items : List (String × List UInt8), (replace name value items).filter p = items.filter p
  | [] => by
    rw [replace, List.filter_cons_of_neg (by rw [hp _ (sameName_self name)]; decide)]
  | item :: rest => by
    rw [replace]
    split
    · next hitem =>
      rw [List.filter_cons_of_neg (by rw [hp _ (sameName_self name)]; decide),
        List.filter_cons_of_neg (by rw [hp _ hitem]; decide), List.filter_filter]
      refine List.filter_congr fun x _ => ?_
      cases hx : sameName x.1 name with
      | false => simp
      | true => simp [hp x hx]
    · rw [List.filter_cons, List.filter_cons, filter_replace value hp rest]

/-- Of the headers of a name, setting it leaves one. -/
theorem filter_sameName_replace (name : String) (value : List UInt8) :
    ∀ items : List (String × List UInt8),
      (replace name value items).filter (fun item => sameName item.1 name) = [(name, value)]
  | [] => by simp [replace]
  | item :: rest => by
    rw [replace]
    split
    · rw [List.filter_cons, if_pos (sameName_self name), List.filter_filter]
      simp
    · next hitem =>
      rw [List.filter_cons, if_neg hitem]
      exact filter_sameName_replace name value rest

/-- Under the name that was set there is just the new value. -/
@[simp] theorem values_put_self (h : Headers) (name : String) (value : List UInt8) :
    (h.put name value).values name = [value] := by
  rw [values, under, put, filter_sameName_replace]
  rfl

/-- Under another name all is as it was. -/
theorem values_put_of_ne {name other : String} (hne : sameName name other = false) (h : Headers)
    (value : List UInt8) : (h.put name value).values other = h.values other := by
  rw [values, under, put,
    filter_replace value fun item hitem => sameName_eq_false_of_ne hitem hne]
  rfl

/-- Nothing but the headers of the name is touched. -/
@[simp] theorem erase_put_self (h : Headers) (name : String) (value : List UInt8) :
    (h.put name value).erase name = h.erase name := by
  rw [erase, put, filter_replace value fun item hitem => by rw [hitem]; rfl]
  rfl

@[simp] theorem encode_put (h : Headers) (name : String) (value : List UInt8) (text : CodeText) :
    (h.put name value).encode text = h.encode text := rfl

/-! ## What `erase` leaves -/

@[simp] theorem values_erase_self (h : Headers) (name : String) :
    (h.erase name).values name = [] := by
  rw [values, under, erase, List.filter_filter]
  simp

theorem values_erase_of_ne {name other : String} (hne : sameName name other = false)
    (h : Headers) : (h.erase name).values other = h.values other := by
  rw [values, values, under, under, erase, List.filter_filter]
  congr 1
  refine List.filter_congr fun x _ => ?_
  cases hx : sameName x.1 name with
  | false => simp
  | true => simp [sameName_eq_false_of_ne hx hne]

/-! ## Reading and copying -/

@[simp] theorem items_settle (h : Headers) : h.settle.items = h.items := by
  unfold settle
  split <;> rfl

@[simp] theorem values_settle (h : Headers) (name : String) :
    h.settle.values name = h.values name := by
  rw [values, items_settle, values]

@[simp] theorem withoutAuthorization_settle (h : Headers) :
    h.settle.withoutAuthorization = h.withoutAuthorization := by
  simp only [withoutAuthorization, erase, items_settle]

@[simp] theorem values_copy (h : Headers) (name : String) : h.copy.values name = h.values name :=
  rfl

/-! ## Setting with a character set -/

/-- Where a header can be set, setting it puts the bytes of the text. -/
theorem set_eq_ok {h h' : Headers} {name : String} {value : CodeText}
    (hset : h.set name value = .ok h') :
    ∃ bytes, h.encode value = .ok bytes ∧ h' = h.put name bytes := by
  obtain ⟨bytes, hbytes, rfl⟩ := Except.map_eq_ok hset
  exact ⟨bytes, hbytes, rfl⟩

/-- A text is written if the character set has all of it, code point by code point. -/
theorem encode_eq_ok_iff {charset : Charset} {text : CodeText} {bytes : List UInt8} :
    charset.encode text = .ok bytes ↔ (∀ c ∈ text.codes, charset.has c = true) ∧
      bytes = text.codes.flatMap fun c => (charset.bytes? c).getD [] := by
  unfold Charset.encode
  cases hdrop : text.codes.dropWhile charset.has with
  | nil =>
    rw [Except.ok.injEq]
    exact ⟨fun h => ⟨List.dropWhile_eq_nil_iff.mp hdrop, h.symm⟩, fun h => h.2.symm⟩
  | cons c rest =>
    refine iff_of_false nofun fun h => ?_
    rw [List.dropWhile_eq_nil_iff.mpr h.1] at hdrop
    cases hdrop

/-- All character sets have the same byte for a character in ASCII. -/
theorem bytes?_of_isAscii {c : Char} (hc : isAscii c = true) (charset : Charset) :
    charset.bytes? (.char c) = some (Text.Utf8.encodeChar c) := by
  have hlt : c.toNat < 128 := of_decide_eq_true hc
  have hbyte : Text.Utf8.encodeChar c = [UInt8.ofNat c.toNat] := if_pos hlt
  have hlt' : c.toNat < 256 := by omega
  cases charset with
  | ascii => rw [hbyte, Charset.bytes?, if_pos hlt]
  | utf8 => rfl
  | latin1 => rw [hbyte, Charset.bytes?, if_pos hlt']

/-- A text in ASCII has the same bytes in all character sets. -/
theorem encode_of_isAscii {value : String} (hv : ∀ c ∈ value.toList, isAscii c = true)
    (charset : Charset) : charset.encode value = .ok (Text.Utf8.encodeString value) := by
  rw [encode_eq_ok_iff, CodeText.codes_whole, List.forall_mem_map, List.flatMap_map,
    Text.Utf8.encodeString, Text.Utf8.encode]
  refine ⟨fun c hc => ?_, List.flatMap_congr fun c hc => ?_⟩
  · rw [Charset.has, bytes?_of_isAscii (hv c hc), Option.isSome_some]
  · rw [bytes?_of_isAscii (hv c hc), Option.getD_some]

/-- A text in ASCII is read back from its bytes in all character sets. -/
theorem decode_of_isAscii {cs : List Char} (h : ∀ c ∈ cs, isAscii c = true) (charset : Charset) :
    charset.decode (Text.Utf8.encode cs) = cs := by
  have hsingly : Charset.singly (Text.Utf8.encode cs) = cs :=
    Text.Utf8.map_encode_of_ascii fun c hc => of_decide_eq_true (h c hc)
  cases charset with
  | ascii => exact hsingly
  | utf8 => simp only [Charset.decode, Text.Utf8.decode_encode]
  | latin1 => exact hsingly

/-- The bytes of a text that is written in ASCII are those of UTF-8. -/
theorem encode_ascii_eq_ok {value : String} {bytes : List UInt8}
    (h : Charset.ascii.encode value = .ok bytes) : bytes = Text.Utf8.encodeString value := by
  have hv : ∀ c ∈ value.toList, isAscii c = true := by
    intro c hc
    have hhas := (encode_eq_ok_iff.mp h).1 (.char c) (List.mem_map_of_mem hc)
    rw [Charset.has, Charset.bytes?] at hhas
    split at hhas
    · next hlt => exact decide_eq_true hlt
    · cases hhas
  rw [encode_of_isAscii hv] at h
  exact (Except.ok.inj h).symm

theorem writeAll_eq_ok {items : List (String × String)} {written : List (String × List UInt8)}
    (h : writeAll items = .ok written) :
    written = items.map fun item => (item.1, Text.Utf8.encodeString item.2) := by
  induction items generalizing written with
  | nil => exact (Except.ok.inj h).symm
  | cons item items ih =>
    obtain ⟨-, -, h⟩ := Except.bind_eq_ok h
    obtain ⟨bytes, hbytes, h⟩ := Except.bind_eq_ok h
    obtain ⟨rest, hrest, h⟩ := Except.bind_eq_ok h
    rw [← Except.ok.inj h, encode_ascii_eq_ok hbytes, ih hrest, List.map_cons]

/-- What a caller gives as texts is read under its name again. -/
theorem values_of_ofList {items : List (String × String)} {h : Headers} (hh : ofList items = .ok h)
    (name : String) : h.values name = (under name items).map Text.Utf8.encodeString := by
  obtain ⟨written, hwritten, rfl⟩ := Except.map_eq_ok hh
  rw [writeAll_eq_ok hwritten]
  simp [values, under, List.filter_map, Function.comp_def]

/-- A text in ASCII can always be set. -/
theorem set_of_isAscii {value : String} (hv : ∀ c ∈ value.toList, isAscii c = true) (h : Headers)
    (name : String) :
    h.set name value = .ok (h.put name (Text.Utf8.encodeString value)) := by
  rw [set, encode, encode_of_isAscii hv]
  rfl

end Headers

namespace Request

/-- `second` is `first` but for its credentials. -/
structure Restates (first second : Request) : Prop where
  method_eq : second.method = first.method
  url_eq : second.url = first.url
  body_eq : second.body.content = first.body.content
  others_eq : second.headers.withoutAuthorization = first.headers.withoutAuthorization

/-- `second` is `first` but for its credentials, which are `credentials` as its headers are
written, and nothing else. -/
structure Authorized (first : Request) (credentials : CodeText) (second : Request) : Prop
    extends Restates first second where
  credentials_eq : ∃ bytes, second.headers.encode credentials = .ok bytes ∧
    second.headers.values Headers.authorization = [bytes]

theorem Restates.refl (r : Request) : r.Restates r := ⟨rfl, rfl, rfl, rfl⟩

theorem Restates.trans {first second third : Request} (h : first.Restates second)
    (h' : second.Restates third) : first.Restates third where
  method_eq := h'.method_eq.trans h.method_eq
  url_eq := h'.url_eq.trans h.url_eq
  body_eq := h'.body_eq.trans h.body_eq
  others_eq := h'.others_eq.trans h.others_eq

/-! ## Reading and sending -/

/-- The body of the request is at hand. -/
def IsRead (r : Request) : Prop := ∃ bytes, r.body = .held bytes

/-- Reading a request changes nothing but that its body is at hand. -/
theorem read_eq_ok {r r' : Request} (h : r.read = .ok r') :
    ∃ bytes, r.body.content = .ok bytes ∧ r' = { r with body := .held bytes } := by
  obtain ⟨bytes, hbytes, rfl⟩ := Except.map_eq_ok h
  exact ⟨bytes, hbytes, rfl⟩

theorem isRead_of_read {r r' : Request} (h : r.read = .ok r') : r'.IsRead := by
  obtain ⟨bytes, -, rfl⟩ := read_eq_ok h
  exact ⟨bytes, rfl⟩

/-- A request says the same when it is read. -/
theorem restates_of_read {r r' : Request} (h : r.read = .ok r') : r.Restates r' := by
  obtain ⟨bytes, hbytes, rfl⟩ := read_eq_ok h
  exact ⟨rfl, rfl, hbytes.symm, rfl⟩

/-- Sending a request with its body at hand changes nothing of what it says. -/
theorem restates_sent {r : Request} (h : r.IsRead) : r.Restates r.sent := by
  obtain ⟨bytes, hbody⟩ := h
  refine ⟨rfl, rfl, ?_, r.headers.withoutAuthorization_settle⟩
  simp only [sent, hbody, Body.spent]

theorem IsRead.sent {r : Request} (h : r.IsRead) : r.sent.IsRead := by
  obtain ⟨bytes, hbody⟩ := h
  exact ⟨bytes, by simp only [Request.sent, hbody, Body.spent]⟩

/-! ## Setting credentials -/

theorem authorize_eq_ok {first second : Request} {credentials : CodeText}
    (h : first.authorize credentials = .ok second) :
    ∃ bytes, first.headers.encode credentials = .ok bytes ∧
      second = { first with headers := first.headers.put Headers.authorization bytes } := by
  obtain ⟨headers, hset, rfl⟩ := Except.map_eq_ok h
  obtain ⟨bytes, hbytes, rfl⟩ := Headers.set_eq_ok hset
  exact ⟨bytes, hbytes, rfl⟩

/-- Credentials are refused exactly if the character set of the headers, or UTF-8 as long as none
is settled, lacks a code point of them.  All of them lack halves of surrogate pairs. -/
theorem exists_authorize_error_iff {r : Request} {credentials : CodeText} :
    (∃ e, r.authorize credentials = .error e) ↔
      ∃ c ∈ credentials.codes, (r.headers.charset.getD .utf8).has c = false := by
  have hok : (∃ r', r.authorize credentials = .ok r') ↔
      ∃ bytes, r.headers.encode credentials = .ok bytes := by
    constructor
    · rintro ⟨r', h⟩
      obtain ⟨bytes, hbytes, -⟩ := authorize_eq_ok h
      exact ⟨bytes, hbytes⟩
    · rintro ⟨bytes, hbytes⟩
      exact ⟨_, by rw [authorize, Headers.set, hbytes]; rfl⟩
  rw [Except.exists_error_iff, hok, Headers.encode]
  simp [Headers.encode_eq_ok_iff]

theorem authorize_of_isAscii {credentials : String}
    (hv : ∀ c ∈ credentials.toList, Headers.isAscii c = true) (first : Request) :
    first.authorize credentials =
      .ok { first with
        headers :=
          first.headers.put Headers.authorization (Text.Utf8.encodeString credentials) } := by
  rw [authorize, Headers.set_of_isAscii hv]
  rfl

theorem IsRead.authorize {first second : Request} {credentials : CodeText} (hread : first.IsRead)
    (h : first.authorize credentials = .ok second) : second.IsRead := by
  obtain ⟨bytes, -, rfl⟩ := authorize_eq_ok h
  exact hread

/-- What `authorize` gives is the request with those credentials. -/
theorem authorized_of_authorize {first second : Request} {credentials : CodeText}
    (h : first.authorize credentials = .ok second) : first.Authorized credentials second := by
  obtain ⟨bytes, hbytes, rfl⟩ := authorize_eq_ok h
  exact ⟨⟨rfl, rfl, rfl, by simp [Headers.withoutAuthorization]⟩, bytes, by simpa using hbytes,
    by simp⟩

/-- What was presented before does not count. -/
theorem Authorized.of_restates {first second third : Request} {credentials : CodeText}
    (h : first.Restates second) (h' : second.Authorized credentials third) :
    first.Authorized credentials third :=
  ⟨h.trans h'.toRestates, h'.credentials_eq⟩

end Request
end RegistryAuth
