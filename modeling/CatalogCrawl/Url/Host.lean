import CatalogCrawl.Url.Domain
import CatalogCrawl.Url.Percent

/-! # Hosts

A host is a name, an IPv4 or an IPv6 address. Names are in lower case, with labels that are not
ASCII in Punycode. -/

namespace CatalogCrawl.Url

/-- Why a text is no URL. -/
inductive ParseError where
  | emptyHost
  | badDomain
  | badDomainCharacter
  | badPort
  | badIpv4
  | badIpv6
  | noScheme
  deriving DecidableEq, Repr

def ParseError.message : ParseError → String
  | .emptyHost => "empty host"
  | .badDomain => "invalid international domain name"
  | .badDomainCharacter => "invalid domain character"
  | .badPort => "invalid port number"
  | .badIpv4 => "invalid IPv4 address"
  | .badIpv6 => "invalid IPv6 address"
  | .noScheme => "relative URL without a base"

inductive Host where
  | name (chars : List Char)
  | ipv4 (address : Nat)
  | ipv6 (pieces : List Nat)
  deriving DecidableEq, Repr

namespace Host

/-! ## IPv4 -/

/-- A number in decimal, or in octal after `0`, or in hexadecimal after `0x`. -/
def ipv4Number? (cs : List Char) : Option Nat :=
  let (base, ds) := match cs with
    | '0' :: 'x' :: r => (16, r)
    | '0' :: 'X' :: r => (16, r)
    | '0' :: c :: r => (8, c :: r)
    | r => (10, r)
  if cs.isEmpty then none
  else
    ds.foldlM (fun n c => do
      let d ← hexValue c
      if d < base then some (n * base + d) else none) 0

/-- The parts of a name between its dots, without an empty one at the end. -/
def dotParts (cs : List Char) : List (List Char) :=
  let parts := Text.splitOn '.' cs
  if parts.length > 1 && parts.getLast? = some [] then parts.dropLast else parts

/-- Whether the last part of a name is a number, so that the name has to be an IPv4 address. -/
def endsInNumber (cs : List Char) : Bool :=
  match (dotParts cs).getLast? with
  | some last => (!last.isEmpty && last.all Char.isDigit) || (ipv4Number? last).isSome
  | none => false

/-- An address of up to four numbers. The last one fills all places that are left. -/
def parseIpv4 (cs : List Char) : Except ParseError Nat :=
  let parts := dotParts cs
  if 4 < parts.length then .error .badIpv4
  else match parts.mapM ipv4Number? with
    | none => .error .badIpv4
    | some numbers =>
      let front := numbers.dropLast
      let last := numbers.getLast?.getD 0
      if front.any (255 < ·) || Nat.pow 256 (4 - front.length) ≤ last then .error .badIpv4
      else .ok (front.zipIdx.foldl (fun sum (n, i) => sum + n * Nat.pow 256 (3 - i)) last)

/-! ## IPv6 -/

/-- Up to four hexadecimal digits: their value, how many there are and the rest. -/
def hexPiece (cs : List Char) : Nat × Nat × List Char :=
  let ds := (cs.take 4).takeWhile fun c => (hexValue c).isSome
  (ds.foldl (fun n c => n * 16 + (hexValue c).getD 0) 0, ds.length, cs.drop ds.length)

/-- A decimal number up to 255 without leading zeros, which takes a whole text. -/
def byte? (cs : List Char) : Option Nat :=
  if cs.isEmpty || !cs.all Char.isDigit then none
  else if cs.length > 1 && cs.head? = some '0' then none
  else
    let n := Nat.ofDigitChars 10 cs 0
    if n ≤ 255 then some n else none

/-- The two pieces that an IPv4 address makes at the end. -/
def ipv4Tail (cs : List Char) : Option (List Nat) := do
  match ← (Text.splitOn '.' cs).mapM byte? with
  | [a, b, c, d] => some [a * 256 + b, c * 256 + d]
  | _ => none

/-- Reads pieces up to the end. `gap` is the number of pieces before `::`. -/
def ipv6Pieces : Nat → List Char → List Nat → Option Nat → Option (List Nat × Option Nat)
  | _, [], pieces, gap => some (pieces, gap)
  | 0, _ :: _, _, _ => none
  | fuel + 1, c :: cs, pieces, gap =>
    -- a second colon counts as one of the eight places
    let places := pieces.length + if gap.isSome then 1 else 0
    if 8 ≤ places then none
    else if c = ':' then
      if gap.isSome then none else ipv6Pieces fuel cs pieces (some pieces.length)
    else
      let (value, count, rest) := hexPiece (c :: cs)
      match rest with
      | [] => if count = 0 then none else some (pieces ++ [value], gap)
      | '.' :: _ =>
        if count = 0 || 6 < places then none
        else (ipv4Tail (c :: cs)).map fun tail => (pieces ++ tail, gap)
      | ':' :: rest => if rest.isEmpty then none else ipv6Pieces fuel rest (pieces ++ [value]) gap
      | _ => none

/-- An address without its brackets. -/
def parseIpv6 (cs : List Char) : Except ParseError (List Nat) :=
  let read := match cs with
    | ':' :: ':' :: rest => ipv6Pieces cs.length rest [] (some 0)
    | ':' :: _ => none
    | [] => none
    | [_] => none
    | _ => ipv6Pieces cs.length cs [] none
  match read with
  | some (pieces, some gap) =>
    .ok (pieces.take gap ++ List.replicate (8 - pieces.length) 0 ++ pieces.drop gap)
  | some (pieces, none) => if pieces.length = 8 then .ok pieces else .error .badIpv6
  | none => .error .badIpv6

/-! ## Hosts -/

/-- An address in brackets, if the text starts with one. -/
def bracketed? : List Char → Option (Except ParseError Host)
  | '[' :: cs =>
    if cs.getLast? = some ']' then some (return .ipv6 (← parseIpv6 cs.dropLast))
    else some (.error .badIpv6)
  | _ => none

/-- The host of a scheme such as `http`. -/
def parse (cs : List Char) : Except ParseError Host :=
  match bracketed? cs with
  | some r => r
  | none => do
    let decoded ← match Text.Utf8.decode (percentDecode cs) with
      | some d => .ok d
      | none => .error ParseError.badDomain
    let name ← match Domain.ascii? decoded with
      | some n => .ok n
      | none => .error ParseError.badDomain
    if name.isEmpty then .error .emptyHost
    else if endsInNumber name then return .ipv4 (← parseIpv4 name)
    else return .name name

/-- The host of any other scheme, which is kept as it is. -/
def parseOpaque (cs : List Char) : Except ParseError Host :=
  match bracketed? cs with
  | some r => r
  | none =>
    if cs.any fun c => "\x00\t\n\r #/:<>?@[\\]^|".toList.contains c then .error .badDomainCharacter
    else .ok (.name (percentEncode isControl cs))

/-- Where the longest run of two or more zeros starts, and its length. -/
def longestZeros : List Nat → Nat → Nat × Nat → Nat × Nat
  | [], _, best => best
  | p :: ps, i, best =>
    let run := ((p :: ps).takeWhile (· == 0)).length
    longestZeros ps (i + 1) (if best.2 < run && 2 ≤ run then (i, run) else best)

def hexText (n : Nat) : List Char := Nat.toDigits 16 n

def colons (pieces : List Nat) : List Char := [':'].intercalate (pieces.map hexText)

def chars : Host → List Char
  | .name cs => cs
  | .ipv4 n =>
    ['.'].intercalate
      ([n / 16777216, n / 65536 % 256, n / 256 % 256, n % 256].map (Nat.toDigits 10))
  | .ipv6 pieces =>
    let (start, run) := longestZeros pieces 0 (0, 0)
    let body :=
      if run = 0 then colons pieces
      else colons (pieces.take start) ++ ':' :: ':' :: colons (pieces.drop (start + run))
    '[' :: body ++ [']']

end Host

end CatalogCrawl.Url
