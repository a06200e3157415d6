/-! # Terminal colours -/

namespace CatalogCrawl.Text

inductive Color where
  | red
  | green
  | yellow
  | cyan
  | white
  deriving DecidableEq, Repr

def Color.code : Color → String
  | .red => "31"
  | .green => "32"
  | .yellow => "33"
  | .cyan => "36"
  | .white => "37"

/-- The text in a colour, or as it is when colours are off. An empty text stays empty. -/
def Color.paint (c : Color) (on : Bool) (s : String) : String :=
  if on && !s.isEmpty then s!"\x1b[{c.code}m{s}\x1b[0m" else s

end CatalogCrawl.Text
