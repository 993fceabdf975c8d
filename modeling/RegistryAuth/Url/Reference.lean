import RegistryAuth.Text.Blank
import RegistryAuth.Text.Quoted
import RegistryAuth.Unicode.LetterCase
import RegistryAuth.Url.IpAddress

/-!
# References and their parts

A reference to a resource has up to five parts: a scheme before a colon, an authority
behind two slashes, a path, a query behind a question mark and a fragment behind a
hash.  `Reference.split` takes a text apart as leniently as it can; it refuses only an
authority whose brackets hold no address, or that would hold a separator once its
characters are replaced by their compatible plain forms.  `Reference.join` resolves a
reference against the one it was found at.
-/

namespace RegistryAuth

/-- Why a text is no reference. -/
inductive ReferenceError where
  | brackets
  | futureAddress
  | noAddress (host : List Char)
  | bracketedV4
  | compatibleSeparator (authority : List Char)
  deriving Repr, DecidableEq

/-- The words for the failure. -/
def ReferenceError.message : ReferenceError → String
  | .brackets => "Invalid IPv6 URL"
  | .futureAddress => "IPvFuture address is invalid"
  | .noAddress host =>
    String.ofList (Text.quoted host) ++ " does not appear to be an IPv4 or IPv6 address"
  | .bracketedV4 => "An IPv4 address cannot be in brackets"
  | .compatibleSeparator authority =>
    "netloc '" ++ String.ofList authority ++
      "' contains invalid characters under NFKC normalization"

/-- The parts of a reference; a part that is missing is empty. -/
structure Reference where
  scheme : List Char
  authority : List Char
  path : List Char
  query : List Char
  fragment : List Char
  deriving Repr, DecidableEq

namespace Reference

/-- Characters beyond ASCII whose compatible plain form holds a separator of the parts
of a reference or of an authority. -/
def separatorLike : List Nat :=
  [0x2047, 0x2048, 0x2049, 0x2100, 0x2101, 0x2105, 0x2106, 0x2A74, 0xFE13, 0xFE16, 0xFE55,
    0xFE56, 0xFE5F, 0xFE6B, 0xFF03, 0xFF0F, 0xFF1A, 0xFF1F, 0xFF20]

/-- Whether `c` can stand in a scheme. -/
def isSchemeChar (c : Char) : Bool := c.isAlphanum || c = '+' || c = '-' || c = '.'

/-- The scheme in lower case and what follows it; a scheme begins with a letter. -/
def splitScheme (cs : List Char) : List Char × List Char :=
  match Text.cut? (· = ':') cs with
  | some (c :: front, rest) =>
    if c.isAlpha && (c :: front).all isSchemeChar then ((c :: front).map Char.toLower, rest)
    else ([], cs)
  | _ => ([], cs)

/-- The text up to the first of some separators, and the text from there. -/
def upTo (stop : Char → Bool) (cs : List Char) : List Char × List Char :=
  (cs.takeWhile fun c => !stop c, cs.dropWhile fun c => !stop c)

/-- The text before a separator and the text behind it; nothing where there is none. -/
def before (sep : Char) (cs : List Char) : List Char × List Char :=
  match Text.cut? (· = sep) cs with
  | some parts => parts
  | none => (cs, [])

/-- The text behind the last separator, or all of it. -/
def afterLast (sep : Char) (cs : List Char) : List Char :=
  match Text.cutLast? (· = sep) cs with
  | some (_, rest) => rest
  | none => cs

/-- Whether the text is `v`, hexadecimal digits, a point and more. -/
def isFutureAddress : List Char → Bool
  | 'v' :: cs =>
    match Text.cut? (· = '.') cs with
    | some (version, rest) =>
      !version.isEmpty && version.all (fun c => (Unicode.hexDigit? c).isSome) &&
        !rest.isEmpty && !rest.contains '\n'
    | none => false
  | _ => false

/-- Checks what stands in brackets. -/
def checkBracketed (host : List Char) : Except ReferenceError Unit :=
  if host.head? = some 'v' then
    if isFutureAddress host then .ok () else .error .futureAddress
  else if IpAddress.isV4 host then .error .bracketedV4
  else if IpAddress.isV6 host then .ok ()
  else .error (.noAddress host)

/-- Checks the brackets of an authority: they stand at the front of the host, and only
a port may follow them. -/
def checkBrackets (authority : List Char) : Except ReferenceError Unit :=
  let opened := authority.contains '['
  let closed := authority.contains ']'
  if opened != closed then .error .brackets
  else if !opened then .ok ()
  else
    let hostAndPort := afterLast '@' authority
    match Text.cut? (· = '[') hostAndPort with
    | some (front, inside) =>
      let (host, port) := before ']' inside
      if !front.isEmpty then .error .brackets
      else if !port.isEmpty && port.head? != some ':' then .error .brackets
      else checkBracketed host
    | none => checkBracketed (before ':' hostAndPort).1

/-- Checks that no character of the authority stands for a separator. -/
def checkPlain (authority : List Char) : Except ReferenceError Unit :=
  if authority.any fun c => separatorLike.contains c.toNat then
    .error (.compatibleSeparator authority)
  else .ok ()

/-- The text without the controls and blanks at its front and without tabs and line
ends. -/
def clean (cs : List Char) : List Char :=
  (cs.dropWhile fun c => c.toNat ≤ 32).filter fun c => c != '\t' && c != '\r' && c != '\n'

/-- The parts of a reference; `scheme` is the one it has if it writes none. -/
def split (scheme : List Char) (cs : List Char) : Except ReferenceError Reference := do
  let (own, rest) := splitScheme (clean cs)
  let scheme := if own.isEmpty then scheme else own
  let (authority, rest) := match rest with
    | '/' :: '/' :: rest => upTo (fun c => c = '/' || c = '?' || c = '#') rest
    | rest => ([], rest)
  checkBrackets authority
  let (rest, fragment) := before '#' rest
  let (path, query) := before '?' rest
  checkPlain authority
  return ⟨scheme, authority, path, query, fragment⟩

/-- Schemes whose last path segment may carry parameters behind a semicolon. -/
def paramSchemes : List String :=
  ["", "ftp", "hdl", "prospero", "http", "imap", "https", "shttp", "rtsp", "rtspu", "sip",
    "sips", "mms", "sftp", "tel"]

/-- Schemes whose references may be relative. -/
def relativeSchemes : List String :=
  ["", "ftp", "http", "gopher", "nntp", "imap", "wais", "file", "https", "shttp", "mms",
    "prospero", "rtsp", "rtspu", "sftp", "svn", "svn+ssh", "ws", "wss"]

/-- Schemes whose references have an authority. -/
def authoritySchemes : List String :=
  ["", "ftp", "http", "gopher", "nntp", "telnet", "imap", "wais", "file", "mms", "https",
    "shttp", "snews", "prospero", "rtsp", "rtspu", "rsync", "svn", "svn+ssh", "sftp", "nfs",
    "git", "git+ssh", "ws", "wss"]

/-- The path and the parameters of its last segment. -/
def splitParams (scheme path : List Char) : List Char × List Char :=
  if !paramSchemes.contains (String.ofList scheme) then (path, [])
  else
    match Text.cutLast? (· = '/') path with
    | none => before ';' path
    | some (front, last) =>
      match Text.cut? (· = ';') last with
      | none => (path, [])
      | some (name, params) => (front ++ '/' :: name, params)

/-- The text of a reference. -/
def render (r : Reference) : List Char :=
  let hasScheme := !r.scheme.isEmpty && authoritySchemes.contains (String.ofList r.scheme)
  let doubled := r.path.take 2 = ['/', '/']
  let body :=
    if !r.authority.isEmpty || (hasScheme && !doubled) then
      let path := if !r.path.isEmpty && r.path.head? != some '/' then '/' :: r.path else r.path
      ['/', '/'] ++ r.authority ++ path
    else r.path
  (if r.scheme.isEmpty then [] else r.scheme ++ [':']) ++ body ++
    (if r.query.isEmpty then [] else '?' :: r.query) ++
    (if r.fragment.isEmpty then [] else '#' :: r.fragment)

/-- The text with the parameters put back on the path. -/
def renderWith (r : Reference) (params : List Char) : List Char :=
  render (if params.isEmpty then r else { r with path := r.path ++ ';' :: params })

/-- Resolves `.` and `..` among the segments of a path; `done` are the segments so
far, the last first. -/
def resolveDots : List (List Char) → List (List Char) → List (List Char)
  | [], done => done.reverse
  | seg :: segs, done =>
    if seg = ['.', '.'] then resolveDots segs (done.drop 1)
    else if seg = ['.'] then resolveDots segs done
    else resolveDots segs (seg :: done)

/-- Segments with slashes between them. -/
def joinSegments (segs : List (List Char)) : List Char := List.intercalate ['/'] segs

/-- A list without the empty segments between its first and its last. -/
def dropInnerEmpty (segs : List (List Char)) : List (List Char) :=
  match segs with
  | [] => []
  | first :: rest =>
    match rest.getLast? with
    | none => [first]
    | some last => first :: (rest.dropLast.filter fun s => !s.isEmpty) ++ [last]

/-- A path found at another path, with `.` and `..` resolved. -/
def joinPaths (base path : List Char) : List Char :=
  let baseParts := Text.splitOn '/' base
  let baseParts := if baseParts.getLast? = some [] then baseParts else baseParts.dropLast
  let segs :=
    if path.head? = some '/' then Text.splitOn '/' path
    else dropInnerEmpty (baseParts ++ Text.splitOn '/' path)
  let resolved := resolveDots segs []
  let resolved :=
    if segs.getLast? = some ['.'] ∨ segs.getLast? = some ['.', '.'] then resolved ++ [[]]
    else resolved
  let joined := joinSegments resolved
  if joined.isEmpty then ['/'] else joined

/-- The reference that `target` means where it is found at `base`. -/
def join (base target : List Char) : Except ReferenceError (List Char) :=
  if base.isEmpty then .ok target
  else if target.isEmpty then .ok base
  else do
    let b ← split [] base
    let t ← split b.scheme target
    let (bpath, bparams) := splitParams b.scheme b.path
    let (path, params) := splitParams t.scheme t.path
    let scheme := String.ofList t.scheme
    if t.scheme ≠ b.scheme ∨ !relativeSchemes.contains scheme then return target
    let ownAuthority := authoritySchemes.contains scheme
    if ownAuthority && !t.authority.isEmpty then
      return renderWith { t with path := path } params
    let authority := if ownAuthority then b.authority else t.authority
    if path.isEmpty && params.isEmpty then
      let query := if t.query.isEmpty then b.query else t.query
      return renderWith ⟨t.scheme, authority, bpath, query, t.fragment⟩ bparams
    return renderWith ⟨t.scheme, authority, joinPaths bpath path, t.query, t.fragment⟩ params

end Reference
end RegistryAuth
