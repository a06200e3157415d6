/-! # Paths

Paths are texts with the components between slashes. Empty components and the component `.` do not
count, except for a `.` at the very beginning. A path is a text of Unicode characters; file names
that are not UTF-8 are left out. -/

namespace CatalogCrawl.Path

/-- What a path starts with before its body: the root, the working directory, or nothing. -/
inductive Head where
  | root
  | here
  | none
  deriving DecidableEq, Repr

def Head.chars : Head → List Char
  | .root => ['/']
  | .here => ['.']
  | .none => []

/-- The head and the pieces of the body. -/
def pieces (p : String) : Head × List (List Char) :=
  match p.toList with
  | '/' :: cs => (.root, cs.splitOn '/')
  | ['.'] => (.here, [[]])
  | '.' :: '/' :: cs => (.here, ('/' :: cs).splitOn '/')
  | cs => (.none, cs.splitOn '/')

/-- Pieces that are no component. -/
def isVoid (piece : List Char) : Bool := piece.isEmpty || piece = ['.']

/-- The body without the void pieces at its end. -/
def dropVoid (ps : List (List Char)) : List (List Char) := (ps.reverse.dropWhile isVoid).reverse

/-- The names between the slashes of a path. -/
def names (p : String) : List String :=
  ((p.toList.splitOn '/').filter (!·.isEmpty)).map String.ofList

def isAbsolute (p : String) : Bool := p.toList.head? = some '/'

/-- The last component, unless it is `..` or the head. -/
def fileName? (p : String) : Option String :=
  match (dropVoid (pieces p).2).getLast? with
  | some name => if name = ['.', '.'] then Option.none else some (String.ofList name)
  | Option.none => Option.none

/-- The path without its last component. The root and the empty path have no parent. -/
def parent? (p : String) : Option String :=
  let (head, body) := pieces p
  match dropVoid body with
  | [] => if head = .here then some "" else Option.none
  | ps => some (String.ofList (head.chars ++ ['/'].intercalate (dropVoid ps.dropLast)))

/-- A path taken from another one. An absolute path replaces it. -/
def join (base p : String) : String :=
  if isAbsolute p then p
  else if base.isEmpty then p
  else if base.toList.getLast? = some '/' then base ++ p
  else base ++ "/" ++ p

/-- The path and its parents, longest first, as far as there is something to create: without the
root, the empty path and what has no parent. -/
def ancestorsAux : Nat → String → List String
  | 0, _ => []
  | fuel + 1, p =>
    match parent? p with
    | Option.none => []
    | some q => p :: ancestorsAux fuel q

def ancestors (p : String) : List String := ancestorsAux (p.length + 1) p

end CatalogCrawl.Path
