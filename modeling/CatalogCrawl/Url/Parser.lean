import CatalogCrawl.Url.Segment

/-! # Reading URLs

The parser of the URL standard, without a base URL. -/

namespace CatalogCrawl.Url

/-- The text between the control characters and spaces at its ends. -/
def trimControls (cs : List Char) : List Char :=
  let low (c : Char) : Bool := c.toNat ≤ 0x20
  ((cs.dropWhile low).reverse.dropWhile low).reverse

/-- The scheme in lower case, and the text after its colon. -/
def splitScheme? : List Char → Option (List Char × List Char)
  | [] => none
  | c :: cs =>
    if !c.isAlpha then none
    else
      let part (c : Char) : Bool := c.isAlphanum || c == '+' || c == '-' || c == '.'
      match (c :: cs).dropWhile part with
      | ':' :: rest => some (((c :: cs).takeWhile part).map Char.toLower, rest)
      | _ => none

/-- Characters that end the authority. -/
def endsAuthority (kind : SchemeKind) (c : Char) : Bool :=
  c == '/' || c == '?' || c == '#' || (c == '\\' && kind.isSpecial)

/-- The userinfo before the last `@` of the authority, and the rest. -/
def splitUserinfo (kind : SchemeKind) (cs : List Char) : Option (List Char) × List Char :=
  let authority := cs.takeWhile (!endsAuthority kind ·)
  if authority.contains '@' then
    let host := (authority.reverse.takeWhile (· ≠ '@')).reverse
    let user := authority.take (authority.length - host.length - 1)
    (some user, cs.drop (user.length + 1))
  else (none, cs)

/-- The username and the password of a userinfo. An empty password is as good as none. -/
def readUserinfo (cs : List Char) : List Char × Option (List Char) :=
  let name := cs.takeWhile (· ≠ ':')
  let password := match cs.drop name.length with
    | ':' :: c :: rest => some (percentEncode inUserinfoSet (c :: rest))
    | _ => none
  (percentEncode inUserinfoSet name, password)

/-- The text of the host: up to a colon outside brackets or the end of the authority. -/
def takeHost (kind : SchemeKind) : Bool → List Char → List Char × List Char
  | _, [] => ([], [])
  | inside, c :: cs =>
    if endsAuthority kind c || (c == ':' && !inside) then ([], c :: cs)
    else
      let (host, rest) := takeHost kind (c == '[' || (inside && c != ']')) cs
      (c :: host, rest)

/-- The port after its colon, `none` if it is empty or the default of the scheme. -/
def readPort (scheme : List Char) (cs : List Char) : Except ParseError (Option Nat × List Char) :=
  let ds := cs.takeWhile Char.isDigit
  let rest := cs.drop ds.length
  let n := Nat.ofDigitChars 10 ds 0
  let ok := match rest with
    | [] => true
    | c :: _ => c == '/' || c == '\\' || c == '?' || c == '#'
  if 65535 < n || !ok then .error .badPort
  else .ok (if ds.isEmpty || defaultPort scheme = some n then none else some n, rest)

/-- What has been read of a path: the closed segments, what is open of the present one, and whether
a drive letter has come first in a `file` URL. -/
structure PathState where
  path : List Char
  segment : List Char := []
  /-- The end of the open segment that was read in one go, without a character that is
  passed over. -/
  pending : List Char := []
  drive : Bool := false

namespace PathState

/-- Closes the open segment. -/
def close (kind : SchemeKind) (slash : Bool) (s : PathState) : PathState :=
  let segment := s.segment ++ s.pending
  { path := closeSegment kind s.path segment slash
    drive := s.drive || isLeadingDrive kind s.path segment }

/-- Adds a character to the open segment. A drive letter before a character that is passed over is a
segment of its own, which is never resolved. -/
def push (kind : SchemeKind) (c : Char) (s : PathState) : PathState :=
  let coded := if inPathSet c then percentChar c else [c]
  if kind = .file && isNormalDriveLetter ((s.path ++ s.segment).drop 1) then
    { s with segment := s.segment ++ ['/'], pending := s.pending ++ coded }
  else { s with pending := s.pending ++ coded }

/-- Passes over a character. -/
def pass (s : PathState) : PathState := { s with segment := s.segment ++ s.pending, pending := [] }

end PathState

/-- Reads the segments of a path up to a query or a fragment. -/
def readSegments (kind : SchemeKind) : List Char → PathState → PathState × List Char
  | [], s => (s.close kind false, [])
  | c :: cs, s =>
    if isPassedOver c then readSegments kind cs s.pass
    else if c = '/' || (c = '\\' && kind.isSpecial) then readSegments kind cs (s.close kind true)
    else if c = '?' || c = '#' then (s.close kind false, c :: cs)
    else readSegments kind cs (s.push kind c)

/-- The path of a `file` URL has one slash at its start. -/
def normalizePath (kind : SchemeKind) (path : List Char) : List Char :=
  if kind = .file then '/' :: path.dropWhile (· == '/') else path

/-- A path that has been read, whether it starts with a drive letter, and the rest. -/
structure PathRead where
  path : List Char
  drive : Bool := false
  rest : List Char

/-- Reads a path onto what is there of it. -/
def readPath (kind : SchemeKind) (path cs : List Char) : PathRead :=
  let (s, rest) := readSegments kind cs { path }
  { path := normalizePath kind s.path, drive := s.drive, rest }

/-- Reads the path that follows an authority. -/
def readPathStart (kind : SchemeKind) (cs : List Char) : PathRead :=
  match splitFirst cs with
  | none => { path := if kind.isSpecial then ['/'] else [], rest := [] }
  | some (c, rest) =>
    if c = '/' || (c = '\\' && kind.isSpecial) then readPath kind ['/'] rest
    else if !kind.isSpecial && (c = '?' || c = '#') then { path := [], rest := cs }
    else readPath kind ['/'] cs

/-- Reads the query and the fragment. -/
def readTail (kind : SchemeKind) (cs : List Char) : Option (List Char) × Option (List Char) :=
  let fragment (cs : List Char) : Option (List Char) := match cs with
    | '#' :: f => some (percentEncode inFragmentSet f)
    | _ => none
  match withoutPassed cs with
  | '?' :: rest =>
    let set := if kind.isSpecial then inSpecialQuerySet else inQuerySet
    let q := rest.takeWhile (· ≠ '#')
    (some (percentEncode set q), fragment (rest.drop q.length))
  | cs => (none, fragment cs)

/-- Reads a URL from the first character after `//` on. -/
def readAuthority (scheme : List Char) (kind : SchemeKind) (cs : List Char) :
    Except ParseError Url := do
  let (userinfo, rest) := splitUserinfo kind cs
  -- an `@` with nothing before it and nothing after it
  if userinfo = some [] && (match rest with | c :: _ => endsAuthority kind c | [] => false) then
    .error .emptyHost
  else
    let (username, password) := match userinfo with
      | some u => readUserinfo u
      | none => ([], none)
    let (hostText, rest) := takeHost kind false rest
    if hostText.isEmpty && kind.isSpecial then .error .emptyHost
    else
      let host ← if kind.isSpecial then Host.parse hostText else Host.parseOpaque hostText
      let empty := host = .name []
      if empty && rest.head? = some ':' then .error .emptyHost
      else
        let (port, rest) ← match rest with
          | ':' :: r => readPort scheme r
          | r => .ok (none, r)
        if empty && (!username.isEmpty || password.isSome) then .error .emptyHost
        else
          let read := readPathStart kind rest
          let path := read.path
          let (query, fragment) := readTail kind read.rest
          let host := if empty then none else some host
          let authority := some { username, password, host, port }
          return { scheme, authority, path, query, fragment }

/-- The host of a `file` URL, and the text after it. A drive letter is none, and neither is
the local host. -/
def readFileHost (cs : List Char) : Except ParseError (Option Host × List Char) := do
  let raw := cs.takeWhile (!endsAuthority .file ·)
  let text := withoutPassed raw
  if text.isEmpty || isDriveLetter text then return (none, cs)
  else
    let rest := cs.drop raw.length
    match ← Host.parse text with
    | .name n =>
      if n = "localhost".toList then return (none, rest) else return (some (.name n), rest)
    | h => return (some h, rest)

/-- Reads the host and the path of a `file` URL. Without a host the path is read behind a slash of
its own. A path that starts with a drive letter has no host. -/
def readFilePath (cs : List Char) : Except ParseError (Option Host × PathRead) := do
  let isSlash (c : Char) : Bool := c == '/' || c == '\\'
  match splitFirst cs with
  | none => return (none, readPath .file ['/'] cs)
  | some (c, rest) =>
    if !isSlash c then return (none, readPath .file ['/'] cs)
    else match splitFirst rest with
      | none => return (none, readPath .file ['/'] rest)
      | some (d, rest') =>
        if !isSlash d then return (none, readPath .file ['/'] rest)
        else match ← readFileHost rest' with
          | (none, rest) => return (none, readPath .file ['/'] rest)
          | (some host, rest) =>
            let read := readPathStart .file rest
            return (if read.drive then none else some host, read)

/-- Reads a `file` URL. -/
def readFile (cs : List Char) : Except ParseError Url := do
  let (host, read) ← readFilePath cs
  let (query, fragment) := readTail .file read.rest
  let authority := some { host }
  return { scheme := "file".toList, authority, path := read.path, query, fragment }

/-- Reads a URL of any other scheme. -/
def readOther (scheme cs : List Char) : Except ParseError Url :=
  match cs with
  | '/' :: '/' :: rest => readAuthority scheme .other rest
  | '/' :: rest =>
    let read := readPath .other ['/'] rest
    let (query, fragment) := readTail .other read.rest
    let marked := ['/', '/'].isPrefixOf read.path
    .ok { scheme, authority := none, marked, path := read.path, query, fragment }
  | cs =>
    let path := cs.takeWhile fun c => c ≠ '?' && c ≠ '#'
    let (query, fragment) := readTail .other (cs.drop path.length)
    .ok { scheme, authority := none, path := percentEncode isControl path, query, fragment }

/-- Reads a URL. -/
def parse (s : String) : Except ParseError Url :=
  let cs := trimControls s.toList
  match splitScheme? (withoutPassed cs) with
  | none => .error .noScheme
  | some (scheme, rest) =>
    match SchemeKind.ofScheme scheme with
    | .file => readFile ((cs.dropWhile (· ≠ ':')).drop 1)
    | .special => readAuthority scheme .special (rest.dropWhile fun c => c == '/' || c == '\\')
    | .other => readOther scheme rest

end CatalogCrawl.Url
