import RegistryAuth.Number.Reading
import RegistryAuth.Number.Written
import RegistryAuth.Unicode.LetterCase
import RegistryAuth.Url.Error
import RegistryAuth.Url.IpAddress
import RegistryAuth.Url.Percent

/-!
# URLs

The URL of a request in normal form: the scheme and the host in lower case, the host in
ASCII, no port where it is the usual one, no dots to resolve in the path, and escapes
where a character may not stand.  `Url.parse` reads a text, `Url.render` writes it;
`Url.parts` and `Url.ofParts` take a URL apart and put it together again, so that single
parts can be replaced.
-/

namespace RegistryAuth

/-- A URL in normal form.  A host that is an address in groups stands without its
brackets. -/
structure Url where
  scheme : List Char
  userinfo : List Char
  host : List Char
  port : Option Int
  path : List Char
  query : Option (List Char)
  fragment : Option (List Char)
  deriving Repr, DecidableEq

/-- The parts of a URL as they are written; the authority holds the rest. -/
structure UrlParts where
  scheme : List Char
  authority : List Char
  path : List Char
  query : Option (List Char)
  fragment : Option (List Char)
  deriving Repr, DecidableEq

namespace Url

/-- The longest URL, and the longest part of one. -/
def maxLength : Nat := 65536

/-- Whether `c` is a control of ASCII. -/
def isControl (c : Char) : Bool := c.toNat < 32 || c.toNat = 127

/-- Whether a part admits `c`, if it admits all printable ASCII but some. -/
def admitsBut (refused : List Char) (c : Char) : Bool :=
  32 < c.toNat && c.toNat < 127 && !refused.contains c

/-- What may stand in a fragment. -/
def fragmentAdmits : Char → Bool := admitsBut ['"', '<', '>', '`']

/-- What may stand in a query. -/
def queryAdmits : Char → Bool := admitsBut ['"', '#', '<', '>']

/-- What may not stand in a path. -/
def pathRefuses : List Char := ['"', '#', '<', '>', '?', '`', Char.ofNat 123, Char.ofNat 125]

/-- What may stand in a path. -/
def pathAdmits : Char → Bool := admitsBut pathRefuses

/-- What may stand in the name and the password before a host. -/
def userinfoAdmits : Char → Bool :=
  admitsBut (pathRefuses ++ ['/', ';', '=', '@', '[', '\\', ']', '^', '|'])

/-- What may stand in the name of a host. -/
def hostAdmits (c : Char) : Bool :=
  Percent.isUnreserved c || "!$&'()*+,;=\"`%|\\".toList.contains c || c.toNat = 123 ||
    c.toNat = 125

/-- Whether a host has the look of four numbers: three points, with digits around each. -/
def looksV4 (host : List Char) : Bool :=
  let numbers := Text.splitOn '.' host
  numbers.length = 4 && numbers.all fun digits => !digits.isEmpty && digits.all Char.isDigit

/-- Whether a host stands in brackets. -/
def isBracketed (host : List Char) : Bool :=
  host.head? = some '[' && host.getLast? = some ']' && 2 ≤ host.length

/-- The host in normal form. -/
def normalHost (host : List Char) : Except UrlError (List Char) :=
  if host.isEmpty then .ok []
  else if looksV4 host then
    if IpAddress.isV4 host then .ok host else .error (.ipv4 host)
  else if isBracketed host then
    let inside := (host.drop 1).dropLast
    if IpAddress.isV6 inside then .ok inside else .error (.ipv6 host)
  else if Hostname.isAscii host then
    .ok (Percent.escapeRest hostAdmits (host.map Char.toLower))
  else
    match Hostname.toAscii (Unicode.lower host) with
    | .ok name => .ok name
    | .error _ => .error (.hostname host)

/-- The usual port of a scheme. -/
def usualPort? (scheme : List Char) : Option Int :=
  [("ftp", 21), ("http", 80), ("https", 443), ("ws", 80), ("wss", 443)].lookup
    (String.ofList scheme)

/-- The port in normal form. -/
def normalPort (scheme port : List Char) : Except UrlError (Option Int) :=
  if port.isEmpty then .ok none
  else
    match Number.whole 10 port with
    | .error _ => .error (.port port)
    | .ok n => .ok (if usualPort? scheme = some n then none else some n)

/-- The path with the segments resolved that are dots. -/
def normalPath (path : List Char) : List Char :=
  let segs := Text.splitOn '/' path
  if !segs.contains ['.'] && !segs.contains ['.', '.'] then path
  else
    let kept := segs.foldl (fun (kept : List (List Char)) seg =>
      if seg = ['.'] then kept
      else if seg = ['.', '.'] then if kept = [[]] then kept else kept.drop 1
      else seg :: kept) []
    List.intercalate ['/'] kept.reverse

/-- Checks that a path fits what stands before it. -/
def checkPath (hasScheme hasAuthority : Bool) (path : List Char) : Except UrlError Unit :=
  if hasAuthority then
    if !path.isEmpty && path.head? != some '/' then .error .pathWithoutSlash else .ok ()
  else if hasScheme then .ok ()
  else if path.take 2 = ['/', '/'] then .error .pathWithSlashes
  else if path.head? = some ':' then .error .pathWithColon
  else .ok ()

/-- The name and password, the host, and the port of an authority. -/
def splitAuthority (authority : List Char) : List Char × List Char × List Char :=
  let (userinfo, rest) := match Text.cutLast? (· = '@') authority with
    | some parts => parts
    | none => ([], authority)
  let (host, port) :=
    match (if rest.head? = some '[' then Text.cutLast? (· = ']') rest else none) with
    | some (front, port) => (front ++ [']'], port)
    | none => (rest.takeWhile (· ≠ ':'), rest.dropWhile (· ≠ ':'))
  (userinfo, host, if port.head? = some ':' then port.drop 1 else port)

/-- A URL in normal form from its parts, where the authority is given in parts of its
own. -/
def assemble (p : UrlParts) (userinfo host port : List Char) : Except UrlError Url := do
  let scheme := p.scheme.map Char.toLower
  let userinfo := Percent.escapeRest userinfoAdmits userinfo
  let host ← normalHost host
  let port ← normalPort p.scheme port
  let hasScheme := !scheme.isEmpty
  let hasAuthority := !userinfo.isEmpty || !host.isEmpty || port.isSome
  checkPath hasScheme hasAuthority p.path
  let path := if hasScheme || hasAuthority then normalPath p.path else p.path
  return {
    scheme, userinfo, host, port
    path := Percent.escapeRest pathAdmits path
    query := p.query.map (Percent.escapeRest queryAdmits)
    fragment := p.fragment.map (Percent.escapeRest fragmentAdmits) }

/-- A URL in normal form from its parts. -/
def normal (p : UrlParts) : Except UrlError Url :=
  let (userinfo, host, port) := splitAuthority p.authority
  assemble p userinfo host port

/-- Whether `c` can stand in a scheme behind its first letter. -/
def isSchemeChar (c : Char) : Bool := c.isAlphanum || c = '+' || c = '.' || c = '-'

/-- The scheme and what follows its colon; a colon at the front ends an empty
scheme. -/
def splitScheme (cs : List Char) : List Char × List Char :=
  match Text.cut? (· = ':') cs with
  | some ([], rest) => ([], rest)
  | some (c :: front, rest) =>
    if c.isAlpha && front.all isSchemeChar then (c :: front, rest) else ([], cs)
  | none => ([], cs)

/-- The parts of a text. -/
def splitText (cs : List Char) : UrlParts :=
  let (scheme, rest) := splitScheme cs
  let inPath (c : Char) : Bool := c != '?' && c != '#'
  let (authority, rest) := match rest with
    | '/' :: '/' :: rest =>
      (rest.takeWhile fun c => c != '/' && inPath c, rest.dropWhile fun c => c != '/' && inPath c)
    | rest => ([], rest)
  let (path, rest) := (rest.takeWhile inPath, rest.dropWhile inPath)
  let (query, rest) := match rest with
    | '?' :: rest => (some (rest.takeWhile (· ≠ '#')), rest.dropWhile (· ≠ '#'))
    | rest => (none, rest)
  let fragment := match rest with
    | '#' :: rest => some rest
    | _ => none
  ⟨scheme, authority, path, query, fragment⟩

/-- The first control in a text and its position. -/
def control? (cs : List Char) : Option (Char × Nat) :=
  (cs.find? isControl).map fun c => (c, (cs.takeWhile (· ≠ c)).length)

/-- Checks that a text is short enough and holds no control. -/
def checkText (cs : List Char) : Except UrlError Unit :=
  if maxLength < cs.length then .error .tooLong
  else
    match control? cs with
    | some (c, position) => .error (.control c position)
    | none => .ok ()

/-- Checks a part that is given on its own; `refused` are the characters that would end
it. -/
def checkPart (part : UrlPart) (refused : List Char) (cs : List Char) : Except UrlError Unit :=
  if maxLength < cs.length then .error (.partTooLong part)
  else
    match control? cs with
    | some (c, position) => .error (.partControl part c position)
    | none => if cs.any refused.contains then .error (.badPart part) else .ok ()

/-- Reads a URL. -/
def parse (cs : List Char) : Except UrlError Url := do
  checkText cs
  normal (splitText cs)

/-- Reads a URL and gives it a query of its own. -/
def parseWithQuery (cs query : List Char) : Except UrlError Url := do
  checkText cs
  checkPart .query ['#'] query
  normal { splitText cs with query := some query }

/-- The host as it stands before a port. -/
def hostText (u : Url) : List Char :=
  if u.host.contains ':' then '[' :: u.host ++ [']'] else u.host

/-- The host and the port. -/
def hostAndPort (u : Url) : List Char :=
  u.hostText ++ match u.port with
    | some n => ':' :: intText n
    | none => []

/-- What stands between the scheme and the path. -/
def authority (u : Url) : List Char :=
  (if u.userinfo.isEmpty then [] else u.userinfo ++ ['@']) ++ u.hostAndPort

/-- The parts of a URL. -/
def parts (u : Url) : UrlParts := ⟨u.scheme, u.authority, u.path, u.query, u.fragment⟩

/-- Checks parts that are given on their own. -/
def checkParts (p : UrlParts) : Except UrlError Unit := do
  checkPart .authority ['/', '?', '#'] p.authority
  checkPart .path ['?', '#'] p.path
  if let some query := p.query then checkPart .query ['#'] query
  if let some fragment := p.fragment then checkPart .fragment [] fragment

/-- A URL from parts of others. -/
def ofParts (p : UrlParts) : Except UrlError Url := do
  checkParts p
  normal p

/-- The URL with another host. -/
def withHost (u : Url) (host : List Char) : Except UrlError Url := do
  let host := if host.contains ':' && !isBracketed host then '[' :: host ++ [']'] else host
  checkParts u.parts
  checkPart .host [] host
  let (userinfo, _, port) := splitAuthority u.authority
  assemble u.parts userinfo host port

/-- The URL with another fragment. -/
def withFragment (u : Url) (fragment : List Char) : Except UrlError Url :=
  ofParts { u.parts with fragment := some fragment }

/-- The text of parts. -/
def renderParts (p : UrlParts) : List Char :=
  (if p.scheme.isEmpty then [] else p.scheme ++ [':']) ++
    (if p.authority.isEmpty then [] else '/' :: '/' :: p.authority) ++ p.path ++
    (match p.query with
      | some query => '?' :: query
      | none => []) ++
    (match p.fragment with
      | some fragment => '#' :: fragment
      | none => [])

/-- The text of a URL. -/
def render (u : Url) : List Char := renderParts u.parts

/-- The text of a URL. -/
def text (u : Url) : String := String.ofList u.render

/-- The host as it is shown: a name in ASCII whose first label is in another script is
shown in that script. -/
def shownHost (u : Url) : Except HostnameError (List Char) :=
  if (Text.dropFront? Hostname.mark u.host).isSome then Hostname.toUnicode u.host else .ok u.host

/-- Whether the URL has a scheme and a host. -/
def isAbsolute (u : Url) : Bool := !u.scheme.isEmpty && !u.host.isEmpty

/-- What a client asks for when it is given a URL: one without a scheme or a host names
a path and nothing else. -/
def rooted (u : Url) : Except UrlError Url :=
  if u.isAbsolute then .ok u
  else ofParts ⟨[], [], '/' :: u.path.dropWhile (· = '/'), u.query, none⟩

/-- The fragment as it is shown. -/
def shownFragment (u : Url) : List Char := Percent.unescape (u.fragment.getD [])

/-- The name before the host. -/
def username (u : Url) : List Char := Percent.unescape (u.userinfo.takeWhile (· ≠ ':'))

/-- The password before the host. -/
def password (u : Url) : List Char := Percent.unescape ((u.userinfo.dropWhile (· ≠ ':')).drop 1)

end Url
end RegistryAuth
