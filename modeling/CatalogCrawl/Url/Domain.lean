import CatalogCrawl.Text.Normal
import CatalogCrawl.Url.Domain.Label
import CatalogCrawl.Url.Domain.Mapping
import CatalogCrawl.Url.Punycode

/-! # Host names

A host name in ASCII: its characters are mapped, the name is put into its normal form, and the
labels that are not ASCII are written in Punycode. -/

namespace CatalogCrawl.Url.Domain

/-- Characters that no name may have. -/
def isForbidden (c : Char) : Bool :=
  c.toNat ≤ 0x20 || c.toNat == 0x7f || "%#/:<>?@[\\]^|".toList.contains c

/-- What a label in Punycode starts with. -/
def codeMark : List Char := ['x', 'n', '-', '-']

/-- The longest label that is written in Punycode, and the longest code that is read. -/
def maxLabel : Nat := 1000
def maxCode : Nat := 2000

/-- The label that a code stands for. It has to be one that needs a code and is spelled
as names are. -/
def decodeLabel? (code : List Char) : Option (List Char) := do
  if code.isEmpty || code.getLast? = some '-' || maxCode < code.length then none
  else
    let label ← Punycode.decode code
    if label.all isValid && Text.normalize label = label && isLabel label then some label else none

/-- A label in ASCII, and as it is read. -/
def asciiLabel? (label : List Char) : Option (List Char × List Char) :=
  if label.all Punycode.isAscii then
    if codeMark.isPrefixOf label then (decodeLabel? (label.drop 4)).map fun read => (label, read)
    else some (label, label)
  else if !codeMark.isPrefixOf label && label.length ≤ maxLabel && isLabel label then
    some (codeMark ++ Punycode.encode label, label)
  else none

/-- A name in ASCII, if it is one. -/
def ascii? (cs : List Char) : Option (List Char) := do
  let name := Text.normalize (← mapName cs)
  if name.any isForbidden then none
  else
    let labels ← (Text.splitOn '.' name).mapM asciiLabel?
    let read := labels.map (·.2)
    if (read.any (·.any turnsLeft)) && !read.all directionsFit then none
    else some (['.'].intercalate (labels.map (·.1)))

end CatalogCrawl.Url.Domain
