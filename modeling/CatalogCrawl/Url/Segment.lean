import CatalogCrawl.Url.Basic

/-! # Path segments

How the segments of a path are read, with `.` and `..` resolved, and how segments are added to a
URL. A path is kept as text: `/` and the segments with a slash between them. -/

namespace CatalogCrawl.Url

/-- A letter and a colon, or a bar in its place. -/
def isDriveLetter : List Char → Bool
  | [a, b] => a.isAlpha && (b == ':' || b == '|')
  | _ => false

def isNormalDriveLetter : List Char → Bool
  | [a, b] => a.isAlpha && b == ':'
  | _ => false

/-- Whether a path starts with a drive letter. -/
def startsWithDriveLetter : List Char → Bool
  | '/' :: a :: b :: rest =>
    isDriveLetter [a, b] && match rest with
      | [] => true
      | c :: _ => c == '/' || c == '\\' || c == '?' || c == '#'
  | _ => false

/-- A path up to and including its last slash. -/
def uptoSlash (path : List Char) : List Char := (path.reverse.dropWhile (· ≠ '/')).reverse

/-- The last segment of a path. -/
def lastSegment (path : List Char) : List Char := (path.reverse.takeWhile (· ≠ '/')).reverse

def endsWithSlash (path : List Char) : Bool := path.getLast? = some '/'

/-- A path without its last segment. The slash before the segment stays, and so does a
drive letter. -/
def popSegment (kind : SchemeKind) (path : List Char) : List Char :=
  if path.isEmpty then path
  else if kind = .file && isNormalDriveLetter (lastSegment path) then path
  else uptoSlash path

/-- Whether the slash that ends a path stands behind another segment. -/
def slashCanGo (path : List Char) : Bool :=
  let before := path.dropLast
  before.contains '/' && !startsWithDriveLetter ('/' :: lastSegment before ++ ['/'])

/-- One of the spellings of `.`. -/
def isDot (segment : List Char) : Bool :=
  [".", "%2e", "%2E"].any (·.toList = segment)

/-- One of the spellings of `..`. -/
def isDotDot (segment : List Char) : Bool :=
  ["..", "%2e%2e", "%2e%2E", "%2E%2e", "%2E%2E", "%2e.", "%2E.", ".%2e", ".%2E"].any
    (·.toList = segment)

/-- Whether a segment is the drive letter that a `file` path starts with. -/
def isLeadingDrive (kind : SchemeKind) (path segment : List Char) : Bool :=
  kind = .file && path.length = 1 && isDriveLetter segment

/-- A path after a segment has been read onto `path`, which ends where the segment starts. `slash`
says whether a slash followed the segment. -/
def closeSegment (kind : SchemeKind) (path segment : List Char) (slash : Bool) : List Char :=
  if isDotDot segment then
    let path := if endsWithSlash path && slashCanGo path then path.dropLast else path
    let path := popSegment kind path
    if slash && !endsWithSlash path then path ++ ['/'] else path
  else if isDot segment then
    if endsWithSlash path then path else path ++ ['/']
  else
    let segment := if isLeadingDrive kind path segment then segment.take 1 ++ [':'] else segment
    path ++ segment ++ (if slash then ['/'] else [])

/-- Characters that are passed over wherever they stand in a URL. -/
def isPassedOver (c : Char) : Bool := c == '\t' || c == '\n' || c == '\r'

/-- A text without the characters that are passed over. -/
def withoutPassed (cs : List Char) : List Char := cs.filter (!isPassedOver ·)

/-- The first character that is not passed over, and what follows it. -/
def splitFirst (cs : List Char) : Option (Char × List Char) :=
  match cs.dropWhile isPassedOver with
  | [] => none
  | c :: rest => some (c, rest)

/-- Adds one segment to a path, encoded so that it stays one segment. The segments `.` and `..`
are not added. -/
def pushSegment (kind : SchemeKind) (path segment : List Char) : List Char :=
  if segment = ['.'] || segment = ['.', '.'] then path
  else
    let path := if path.length = 1 then path else path ++ ['/']
    let encode := if kind.isSpecial then inSpecialSegmentSet else inSegmentSet
    closeSegment kind path (percentEncode encode (withoutPassed segment)) false

/-- A path without an empty segment at its end. -/
def dropEmptySegment (path : List Char) : List Char :=
  if 1 < path.length && endsWithSlash path then path.dropLast else path

/-- The URL with segments added to its path, an empty one at its end being dropped first. -/
def extend (u : Url) (segments : List String) : Url :=
  { u with
    path := segments.foldl (fun p s => pushSegment u.kind p s.toList) (dropEmptySegment u.path) }

end CatalogCrawl.Url
