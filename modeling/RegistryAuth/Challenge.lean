import RegistryAuth.Text.Blank
import RegistryAuth.Unicode.LetterCase
import RegistryAuth.Unicode.Word

/-!
# Authentication challenges

A registry that wants credentials says so in a `WWW-Authenticate` header: a scheme, and
behind a blank its parameters, each a name and a value with an equal sign between them.
A value is a quoted text or runs up to the next blank or comma.

`Challenge.parse` reads such a header.  It takes every parameter it can find and passes
over what is none, so that a list of several challenges is read as the scheme of the
first with the parameters of all.  In a quoted value a backslash shields the character
behind it, but only a shielded quote loses its backslash.  `Challenge.render` writes a
header.
-/

namespace RegistryAuth

/-- A scheme in lower case and its parameters, in the order of their first mention. -/
structure Challenge where
  scheme : String
  params : List (String × String)
  deriving Repr, DecidableEq

namespace Challenge

/-- Reads a quoted value behind its opening quote: the body as it is written, and the
text behind the closing quote.  A line end may not be shielded. -/
def readQuoted : List Char → Option (List Char × List Char)
  | [] => none
  | '"' :: cs => some ([], cs)
  | '\\' :: [] => none
  | '\\' :: c :: cs =>
    if c = '\n' then none
    else (readQuoted cs).map fun (body, left) => ('\\' :: c :: body, left)
  | c :: cs => (readQuoted cs).map fun (body, left) => (c :: body, left)

/-- Whether `c` belongs to a value without quotes. -/
def isBare (c : Char) : Bool := !(Text.isBlank c) && c != ','

/-- Reads a value without quotes. -/
def readBare (cs : List Char) : Option (List Char × List Char) :=
  match cs.takeWhile isBare with
  | [] => none
  | body => some (body, cs.dropWhile isBare)

/-- Reads a value; a quote that is never closed begins a value without quotes. -/
def readValue (cs : List Char) : Option (List Char × List Char) :=
  match cs with
  | '"' :: rest =>
    match readQuoted rest with
    | some r => some r
    | none => readBare cs
  | _ => readBare cs

theorem readQuoted_length {cs body left : List Char} (h : readQuoted cs = some (body, left)) :
    left.length < cs.length := by
  fun_induction readQuoted cs generalizing body with
  | case1 => simp at h
  | case2 cs => simp at h; simp [← h.2]
  | case3 => simp at h
  | case4 => simp at h
  | case5 c cs _ ih =>
    obtain ⟨⟨b, l⟩, hr, he⟩ := Option.map_eq_some_iff.1 h
    simp only [Prod.mk.injEq] at he
    obtain ⟨-, rfl⟩ := he
    have := ih hr
    simp only [List.length_cons]; omega
  | case6 c cs _ _ _ ih =>
    obtain ⟨⟨b, l⟩, hr, he⟩ := Option.map_eq_some_iff.1 h
    simp only [Prod.mk.injEq] at he
    obtain ⟨-, rfl⟩ := he
    have := ih hr
    simp only [List.length_cons]; omega

theorem readBare_length {cs body left : List Char} (h : readBare cs = some (body, left)) :
    left.length ≤ cs.length := by
  unfold readBare at h
  split at h
  · simp at h
  · simp only [Option.some.injEq, Prod.mk.injEq] at h
    rw [← h.2]
    exact (List.dropWhile_sublist isBare).length_le

theorem readValue_length {cs body left : List Char} (h : readValue cs = some (body, left)) :
    left.length ≤ cs.length := by
  unfold readValue at h
  split at h
  · split at h
    · next hr =>
      simp only [Option.some.injEq] at h
      subst h
      have := readQuoted_length hr
      simp only [List.length_cons]; omega
    · exact readBare_length h
  · exact readBare_length h

/-- What stands behind the equal sign that follows a name, blanks passed over. -/
def afterEquals? (cs : List Char) : Option (List Char) :=
  match Text.ltrim cs with
  | '=' :: rest => some (Text.ltrim rest)
  | _ => none

theorem ltrim_length (cs : List Char) : (Text.ltrim cs).length ≤ cs.length :=
  (List.dropWhile_sublist Text.isBlank).length_le

theorem afterEquals?_length {cs rest : List Char} (h : afterEquals? cs = some rest) :
    rest.length < cs.length := by
  unfold afterEquals? at h
  split at h
  · next r hr =>
    simp only [Option.some.injEq] at h
    subst h
    have h1 := ltrim_length cs
    have h2 := ltrim_length r
    rw [hr] at h1
    simp only [List.length_cons] at h1
    omega
  · simp at h

/-- The parameters of a text as they are written, in order. -/
def readParams : List Char → List (List Char × List Char)
  | [] => []
  | c :: cs =>
    if Unicode.isWord c then
      let name := c :: cs.takeWhile Unicode.isWord
      let after := cs.dropWhile Unicode.isWord
      match _hv : (afterEquals? after).bind readValue with
      | some (value, left) => (name, value) :: readParams left
      | none => readParams after
    else readParams cs
termination_by cs => cs.length
decreasing_by
  all_goals
    have hdrop : (cs.dropWhile Unicode.isWord).length ≤ cs.length :=
      (List.dropWhile_sublist Unicode.isWord).length_le
  · obtain ⟨rest, hr, hv'⟩ := Option.bind_eq_some_iff.1 _hv
    have h1 : rest.length < (cs.dropWhile Unicode.isWord).length := afterEquals?_length hr
    have h2 := readValue_length hv'
    simp only [List.length_cons]
    omega
  · simp only [List.length_cons]; omega
  · simp only [List.length_cons]; omega

/-- The value that a body stands for: a shielded quote is a quote. -/
def unescape : List Char → List Char
  | [] => []
  | '\\' :: '"' :: cs => '"' :: unescape cs
  | c :: cs => c :: unescape cs

/-- Sets a parameter: a new one goes to the end, a known one keeps its place. -/
def setParam (key value : String) : List (String × String) → List (String × String)
  | [] => [(key, value)]
  | (k, v) :: rest => if k = key then (k, value) :: rest else (k, v) :: setParam key value rest

/-- Reads a header. -/
def parseChars (header : List Char) : Challenge :=
  let (scheme, rest) := match Text.cut? (· = ' ') (Text.trim header) with
    | some parts => parts
    | none => (Text.trim header, [])
  { scheme := String.ofList (Unicode.lower scheme)
    params := (readParams rest).foldl (fun acc (name, body) =>
      setParam (String.ofList (Unicode.lower name)) (String.ofList (unescape body)) acc) [] }

/-- Reads a header. -/
def parse (header : String) : Challenge := parseChars header.toList

/-- The value of a parameter. -/
def param? (c : Challenge) (key : String) : Option String := c.params.lookup key

/-- One parameter as it is written: the name, the blanks around the equal sign, and the
body, in quotes or not. -/
structure Written where
  name : List Char
  before : List Char
  after : List Char
  isQuoted : Bool
  body : List Char
  deriving Repr, DecidableEq

/-- The text of one parameter. -/
def Written.render (w : Written) : List Char :=
  w.name ++ w.before ++ ['='] ++ w.after ++
    (if w.isQuoted then '"' :: w.body ++ ['"'] else w.body)

/-- The text of parameters; each after the first follows a comma, with the blanks that
are given around it. -/
def renderParams : List (List Char × List Char × Written) → List Char
  | [] => []
  | (before, after, w) :: rest => before ++ [','] ++ after ++ w.render ++ renderParams rest

/-- The text of a header: the scheme, blanks, and the parameters. -/
def render (scheme blanks : List Char) (first : Written)
    (rest : List (List Char × List Char × Written)) : List Char :=
  scheme ++ blanks ++ first.render ++ renderParams rest

end Challenge
end RegistryAuth
