import SchemaMigration.Url.DomainName

/-!
# Checking URLs

Whether a text is an absolute URL, and if not, why. Control characters and blanks
around the text are ignored, and so are tabs and line ends inside it. Only the scheme
and what follows a double slash can be at fault: paths, queries and fragments take any
text.
-/

namespace SchemaMigration.Url

/-- The kinds of scheme that parse differently. -/
inductive SchemeKind where
  /-- Local files. -/
  | file
  /-- The schemes of the web, which always have a host. -/
  | web
  /-- All other schemes. -/
  | other
  deriving DecidableEq, Repr, Inhabited

/-- The kind of a scheme. -/
def schemeKind (scheme : String) : SchemeKind :=
  if scheme = "file" then .file
  else if ["http", "https", "ws", "wss", "ftp"].contains scheme then .web
  else .other

/-- The text that counts. -/
def significant (cs : List Char) : List Char :=
  let isEdge (c : Char) : Bool := c.toNat ≤ 0x20
  let inner := ((cs.dropWhile isEdge).reverse.dropWhile isEdge).reverse
  inner.filter fun c => !(c == '\t' || c == '\n' || c == '\x0d')

/-- Whether a character may stand in a scheme. -/
def isSchemeChar (c : Char) : Bool :=
  c.isAlphanum || c == '+' || c == '-' || c == '.'

/-- The scheme of a text, in lower case, and what follows its colon. -/
def splitScheme? (cs : List Char) : Option (String × List Char) :=
  let scheme := cs.takeWhile isSchemeChar
  match scheme, cs.drop scheme.length with
  | first :: _, ':' :: rest =>
    if first.isAlpha then some (String.ofList (scheme.map Char.toLower), rest) else none
  | _, _ => none

/-- Whether a character ends the part of a URL that names a host. -/
def endsAuthority (kind : SchemeKind) (c : Char) : Bool :=
  c == '/' || c == '?' || c == '#' || (kind != .other && c == '\\')

/-- The user before the last at sign, if there is one, and what follows. -/
def splitUser (kind : SchemeKind) (cs : List Char) : Option (List Char) × List Char :=
  let authority := cs.takeWhile fun c => !endsAuthority kind c
  if authority.contains '@' then
    let host := (authority.reverse.takeWhile (· != '@')).reverse
    let user := authority.take (authority.length - host.length - 1)
    (some user, cs.drop (user.length + 1))
  else (none, cs)

/-- The host at the start of a text: a colon ends it, unless it stands in brackets. -/
def hostPart (kind : SchemeKind) (bracketed : Bool) : List Char → List Char
  | [] => []
  | c :: cs =>
    if endsAuthority kind c || (c == ':' && !bracketed) then []
    else
      let bracketed := if c == '[' then true else if c == ']' then false else bracketed
      c :: hostPart kind bracketed cs

/-- Whether what follows the colon after a host is a number of 16 bits, or nothing. -/
def isPort (cs : List Char) : Bool :=
  let digits := cs.takeWhile Char.isDigit
  let ends :=
    match cs.drop digits.length with
    | [] => true
    | c :: _ => c == '/' || c == '\\' || c == '?' || c == '#'
  ends && numeral 10 digits ≤ 65535

/-- A host of a web address or of any other scheme, with the number after its colon. -/
def checkHostAndPort (kind : SchemeKind) (cs : List Char) : Except Fault Unit :=
  let host := hostPart kind false cs
  let rest := cs.drop host.length
  let checked : Except Fault Unit :=
    if kind = .web then
      if host.isEmpty then .error .emptyHost else checkSpecialHost host
    else if host.isEmpty && rest.head? == some ':' then .error .emptyHost
    else checkOpaqueHost host
  match checked, rest with
  | .error fault, _ => .error fault
  | .ok (), ':' :: digits => if isPort digits then .ok () else .error .invalidPort
  | .ok (), _ => .ok ()

/-- What follows the double slash of a URL. A user needs a host. -/
def checkAuthority (kind : SchemeKind) (cs : List Char) : Except Fault Unit :=
  let (user, rest) := splitUser kind cs
  let atEnd :=
    match rest with
    | [] => false
    | c :: _ => endsAuthority kind c
  if user = some [] && atEnd then .error .emptyHost
  else
    match checkHostAndPort kind rest with
    | .error fault => .error fault
    | .ok () =>
      let named := user.any fun u => !u.isEmpty && u != [':']
      if named && (hostPart kind false rest).isEmpty then .error .emptyHost else .ok ()

/-- Whether a text is the drive letter of a path. -/
def isDriveLetter : List Char → Bool
  | [c, d] => c.isAlpha && (d == ':' || d == '|')
  | _ => false

/-- What follows the scheme of a local file. Its host may be absent. -/
def checkFile (cs : List Char) : Except Fault Unit :=
  let isSlash (c : Char) : Bool := c == '/' || c == '\\'
  match cs with
  | a :: b :: rest =>
    if isSlash a && isSlash b then
      let host := rest.takeWhile fun c => !endsAuthority .file c
      if host.isEmpty || isDriveLetter host then .ok () else checkSpecialHost host
    else .ok ()
  | _ => .ok ()

/-- Whether a text is an absolute URL. -/
def check (text : String) : Except Fault Unit :=
  match splitScheme? (significant text.toList) with
  | none => .error .relativeWithoutBase
  | some (scheme, rest) =>
    match schemeKind scheme with
    | .file => checkFile rest
    | .web => checkAuthority .web (rest.dropWhile fun c => c == '/' || c == '\\')
    | .other =>
      match rest with
      | '/' :: '/' :: authority => checkAuthority .other authority
      | _ => .ok ()

end SchemaMigration.Url
