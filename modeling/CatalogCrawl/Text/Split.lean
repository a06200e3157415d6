/-! # Splitting text at a character -/

namespace CatalogCrawl.Text

/-- The pieces of a text between the occurrences of a character. -/
abbrev splitOn (sep : Char) (cs : List Char) : List (List Char) := cs.splitOn sep

end CatalogCrawl.Text
