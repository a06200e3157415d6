import CatalogCrawl.Url.Basic

/-! # Queries

Pairs in form encoding: `name=value` with `&` between them, a space as `+`. -/

namespace CatalogCrawl.Url

def isFormSafe (c : Char) : Bool := c.isAlphanum || "*-._".toList.contains c

def formEncode (s : String) : List Char :=
  s.toList.flatMap fun c => if c = ' ' then ['+'] else if isFormSafe c then [c] else percentChar c

def formPair (p : String × String) : List Char := formEncode p.1 ++ '=' :: formEncode p.2

/-- Appends a pair to a query, with a separator unless the query is empty. -/
def appendPair (query : List Char) (p : String × String) : List Char :=
  if query.isEmpty then formPair p else query ++ '&' :: formPair p

/-- The URL with pairs added behind its query. A query that stays empty is dropped. -/
def withPairs (u : Url) (pairs : List (String × String)) : Url :=
  let query := pairs.foldl appendPair (u.query.getD [])
  { u with query := if query.isEmpty then none else some query }

end CatalogCrawl.Url
