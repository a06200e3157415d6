import CatalogCrawl.Url.Host

/-! # URLs

A URL in its parts. All parts but the host are kept percent-encoded, as they are written. -/

namespace CatalogCrawl

namespace Url

/-- What stands between `//` and the path. -/
structure Authority where
  username : List Char := []
  password : Option (List Char) := none
  host : Option Host := none
  port : Option Nat := none
  deriving DecidableEq, Repr

end Url

/-- A URL. A path that does not start with a slash, where there is no authority, is opaque: it has
no segments. A path that starts with two slashes, where there is no authority, is marked when it is
read, lest it be taken for an authority; the mark stays when the path changes. -/
structure Url where
  scheme : List Char
  authority : Option Url.Authority
  marked : Bool := false
  path : List Char
  query : Option (List Char)
  fragment : Option (List Char)
  deriving DecidableEq, Repr

namespace Url

/-- What kind of URL a scheme makes. -/
inductive SchemeKind where
  | file
  | special
  | other
  deriving DecidableEq, Repr

def SchemeKind.ofScheme (scheme : List Char) : SchemeKind :=
  if scheme = "file".toList then .file
  else if ["http", "https", "ws", "wss", "ftp"].any (·.toList = scheme) then .special
  else .other

/-- In special schemes and in `file` a backslash counts as a slash. -/
def SchemeKind.isSpecial (k : SchemeKind) : Bool := k ≠ .other

def kind (u : Url) : SchemeKind := .ofScheme u.scheme

def defaultPort (scheme : List Char) : Option Nat :=
  if scheme = "http".toList || scheme = "ws".toList then some 80
  else if scheme = "https".toList || scheme = "wss".toList then some 443
  else if scheme = "ftp".toList then some 21
  else none

def hasHost (u : Url) : Bool :=
  match u.authority with
  | some a => a.host.isSome
  | none => false

/-- Whether the path is opaque, so that nothing can be added to it. -/
def isOpaque (u : Url) : Bool := u.authority.isNone && u.path.head? ≠ some '/'

def Authority.chars (a : Authority) : List Char :=
  let user := match a.password with
    | some p => a.username ++ ':' :: p ++ ['@']
    | none => if a.username.isEmpty then [] else a.username ++ ['@']
  let host := match a.host with
    | some h => h.chars
    | none => []
  let port := match a.port with
    | some p => ':' :: Nat.toDigits 10 p
    | none => []
  '/' :: '/' :: user ++ host ++ port

/-- The part from the scheme up to the path. -/
def front (u : Url) : List Char :=
  u.scheme ++ ':' :: match u.authority with
    | some a => a.chars
    | none => if u.marked then ['/', '.'] else []

def queryChars (u : Url) : List Char :=
  match u.query with
  | some q => '?' :: q
  | none => []

def fragmentChars (u : Url) : List Char :=
  match u.fragment with
  | some f => '#' :: f
  | none => []

def chars (u : Url) : List Char := u.front ++ u.path ++ u.queryChars ++ u.fragmentChars

def text (u : Url) : String := String.ofList u.chars

/-- The path and the query, as a request names its target. -/
def target (u : Url) : String := String.ofList (u.path ++ u.queryChars)

/-- Whether a text is UTF-8 once its escapes are undone. -/
def decodes (cs : List Char) : Bool := (Text.Utf8.decode (percentDecode cs)).isSome

/-- The URL without a username and a password. They stay if the username cannot be decoded, or if
there is only a password that cannot. -/
def withoutCredentials (u : Url) : Url :=
  match u.authority with
  | some a =>
    if decodes a.username && (!a.username.isEmpty || a.password.any decodes) then
      { u with authority := some { a with username := [], password := none } }
    else u
  | none => u

end Url

end CatalogCrawl
