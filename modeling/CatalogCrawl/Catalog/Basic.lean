import CatalogCrawl.Catalog.Item
import CatalogCrawl.Store.Basic

/-! # The catalog

The three calls a crawl is built on, and a catalog as what it answers to them. An answer takes some
time, and while it is on its way others may write to the store. -/

namespace CatalogCrawl

/-- Language and region of every call. -/
structure Locale where
  language : String
  region : String
  deriving DecidableEq, Repr

/-- A page of a ranked listing. -/
structure ListQuery where
  category : String
  collection : String
  pageSize : Nat
  locale : Locale
  deriving DecidableEq, Repr

/-- A call as it was made. -/
inductive Call where
  | list (query : ListQuery)
  | similar (id : String) (locale : Locale)
  | detail (id : String) (locale : Locale)
  deriving DecidableEq, Repr

/-- The answer to a call. -/
structure Answer (α : Type) where
  /-- How long it takes. -/
  delay : Nat := 0
  /-- What is noted when the call is made. -/
  sent : List Log.Record := []
  /-- What others do to the store before it arrives. -/
  meanwhile : Store → Store := id
  /-- What is noted when it arrives. -/
  received : List Log.Record := []
  outcome : Except FetchError α

/-- A catalog. What it answers may also depend on how many calls were made before. -/
structure Catalog where
  list : Nat → ListQuery → Answer (List Item)
  similar : Nat → String → Locale → Answer (List Item)
  detail : Nat → String → Locale → Answer Detail

end CatalogCrawl
