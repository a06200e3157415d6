/-! # The characters of TOML

Blanks, comments and strings. -/

namespace CatalogCrawl.Toml

def isGap (c : Char) : Bool := c == ' ' || c == '\t'

def skipGap (cs : List Char) : List Char := cs.dropWhile isGap

/-- Characters that comments and strings may hold: no control characters but the tab. -/
def isPlain (c : Char) : Bool := c == '\t' || (0x20 ≤ c.toNat && c.toNat ≠ 0x7f)

/-- The text after the comment at its head, if there is one. -/
def skipComment : List Char → List Char
  | '#' :: cs => cs.dropWhile isPlain
  | cs => cs

/-- The text after the line break at its head. -/
def newline? : List Char → Option (List Char)
  | '\n' :: cs => some cs
  | '\r' :: '\n' :: cs => some cs
  | _ => none

/-- The text after the end of the line, with what may stand before it. -/
def endLine? (cs : List Char) : Option (List Char) :=
  match skipComment (skipGap cs) with
  | [] => some []
  | cs => newline? cs

/-- Skips blanks, line breaks and comments. -/
def skipBlank (comment : Bool) : List Char → List Char
  | [] => []
  | '\n' :: cs => skipBlank false cs
  | '\r' :: '\n' :: cs => skipBlank false cs
  | c :: cs =>
    if comment then if isPlain c then skipBlank true cs else c :: cs
    else if isGap c then skipBlank false cs
    else if c = '#' then skipBlank true cs
    else c :: cs

/-- Skips blanks and line breaks. -/
def skipFold : List Char → List Char
  | '\n' :: cs => skipFold cs
  | '\r' :: '\n' :: cs => skipFold cs
  | c :: cs => if isGap c then skipFold cs else c :: cs
  | [] => []

theorem length_skipFold_le (cs : List Char) : (skipFold cs).length ≤ cs.length := by
  fun_induction skipFold cs with
  | case1 cs ih => exact Nat.le_succ_of_le ih
  | case2 cs ih => exact Nat.le_succ_of_le (Nat.le_succ_of_le ih)
  | case3 c cs _ _ h ih => exact Nat.le_succ_of_le ih
  | case4 c cs _ _ h => exact Nat.le_refl _
  | case5 => exact Nat.le_refl _

/-! ## Strings -/

def hexDigit? (c : Char) : Option Nat :=
  if c.isDigit then some (c.toNat - 48)
  else if 'a' ≤ c && c ≤ 'f' then some (c.toNat - 87)
  else if 'A' ≤ c && c ≤ 'F' then some (c.toNat - 55)
  else none

/-- The character with a code in hexadecimal. -/
def codeChar? (ds : List Char) : Option Char := do
  let n ← ds.foldlM (fun n d => (hexDigit? d).map (n * 16 + ·)) 0
  if n.isValidChar then some (Char.ofNat n) else none

/-- The character of an escape with one letter. -/
def letterEscape? (c : Char) : Option Char :=
  if c = 'b' then some '\x08'
  else if c = 't' then some '\t'
  else if c = 'n' then some '\n'
  else if c = 'f' then some '\x0c'
  else if c = 'r' then some '\r'
  else if c = 'e' then some '\x1b'
  else if c = '"' then some '"'
  else if c = '\\' then some '\\'
  else none

/-- How many digits the code of an escape has. -/
def codeLength? (c : Char) : Option Nat :=
  if c = 'x' then some 2 else if c = 'u' then some 4 else if c = 'U' then some 8 else none

/-- The character of an escape, from behind its backslash, and the text after it. -/
def readEscape : List Char → Option (Char × List Char)
  | [] => none
  | c :: cs =>
    match codeLength? c with
    | some n =>
      if cs.length < n then none
      else (codeChar? (cs.take n)).map fun x => (x, cs.drop n)
    | none => (letterEscape? c).map fun x => (x, cs)

theorem length_of_readEscape {cs : List Char} {x : Char} {rest : List Char}
    (h : readEscape cs = some (x, rest)) : rest.length < cs.length := by
  unfold readEscape at h
  split at h
  · cases h
  · split at h
    · split at h
      · cases h
      · simp only [Option.map_eq_some_iff, Prod.mk.injEq] at h
        obtain ⟨_, _, _, rfl⟩ := h
        simp only [List.length_drop, List.length_cons]
        omega
    · simp only [Option.map_eq_some_iff, Prod.mk.injEq] at h
      obtain ⟨_, _, _, rfl⟩ := h
      exact Nat.lt_succ_self _

/-- The characters of a string with escapes up to its closing quote, and the text after it. -/
def readBasic (cs : List Char) : Option (List Char × List Char) :=
  match cs with
  | [] => none
  | '"' :: rest => some ([], rest)
  | '\\' :: rest =>
    match _h : readEscape rest with
    | some (x, rest) => (readBasic rest).map fun (s, rest) => (x :: s, rest)
    | none => none
  | c :: rest =>
    if isPlain c then (readBasic rest).map fun (s, rest) => (c :: s, rest) else none
termination_by cs.length
decreasing_by
  · have := length_of_readEscape _h
    simp only [List.length_cons]
    omega
  · exact Nat.lt_succ_self _

/-- The characters of a literal string. -/
def readLiteral : List Char → Option (List Char × List Char)
  | [] => none
  | '\'' :: rest => some ([], rest)
  | c :: rest =>
    if isPlain c then (readLiteral rest).map fun (s, rest) => (c :: s, rest) else none

/-- The text after a line break that ends in a backslash, if this is one. -/
def fold? (cs : List Char) : Option (List Char) :=
  if cs.head?.any fun c => isGap c || c == '\n' || c == '\r' then
    (newline? (skipGap cs)).map skipFold
  else none

theorem length_of_newline? {cs rest : List Char} (h : newline? cs = some rest) :
    rest.length < cs.length := by
  unfold newline? at h
  split at h
  · cases h
    exact Nat.lt_succ_self _
  · cases h
    simp only [List.length_cons]
    omega
  · cases h

theorem length_of_fold? {cs rest : List Char} (h : fold? cs = some rest) :
    rest.length < cs.length := by
  unfold fold? at h
  split at h
  · simp only [Option.map_eq_some_iff] at h
    obtain ⟨mid, hm, rfl⟩ := h
    have h1 := length_of_newline? hm
    have h2 := length_skipFold_le mid
    have h3 : (skipGap cs).length ≤ cs.length := (List.dropWhile_sublist _).length_le
    omega
  · cases h

/-- The characters of a string of several lines with escapes, and the text after it. One or two
quotes may stand before the closing ones. -/
def readMultiBasic (cs : List Char) : Option (List Char × List Char) :=
  match cs with
  | '"' :: '"' :: '"' :: '"' :: '"' :: rest => some (['"', '"'], rest)
  | '"' :: '"' :: '"' :: '"' :: rest => some (['"'], rest)
  | '"' :: '"' :: '"' :: rest => some ([], rest)
  | '\\' :: rest =>
    match _h : fold? rest with
    | some rest => readMultiBasic rest
    | none =>
      match _h : readEscape rest with
      | some (x, rest) => (readMultiBasic rest).map fun (s, rest) => (x :: s, rest)
      | none => none
  | '\r' :: '\n' :: rest => (readMultiBasic rest).map fun (s, rest) => ('\r' :: '\n' :: s, rest)
  | c :: rest =>
    if isPlain c || c = '\n' then (readMultiBasic rest).map fun (s, rest) => (c :: s, rest)
    else none
  | [] => none
termination_by cs.length
decreasing_by
  · have := length_of_fold? _h
    simp only [List.length_cons]
    omega
  · have := length_of_readEscape _h
    simp only [List.length_cons]
    omega
  · simp only [List.length_cons]
    omega
  · exact Nat.lt_succ_self _

/-- The characters of a literal string of several lines. -/
def readMultiLiteral : List Char → Option (List Char × List Char)
  | '\'' :: '\'' :: '\'' :: '\'' :: '\'' :: rest => some (['\'', '\''], rest)
  | '\'' :: '\'' :: '\'' :: '\'' :: rest => some (['\''], rest)
  | '\'' :: '\'' :: '\'' :: rest => some ([], rest)
  | '\r' :: '\n' :: rest => (readMultiLiteral rest).map fun (s, rest) => ('\r' :: '\n' :: s, rest)
  | c :: rest =>
    if isPlain c || c = '\n' then (readMultiLiteral rest).map fun (s, rest) => (c :: s, rest)
    else none
  | [] => none

/-- A line break right after the opening quotes does not count. -/
def dropFirstBreak (cs : List Char) : List Char := (newline? cs).getD cs

/-- A string of any of the four kinds. -/
def readString : List Char → Option (List Char × List Char)
  | '"' :: '"' :: '"' :: cs => readMultiBasic (dropFirstBreak cs)
  | '"' :: cs => readBasic cs
  | '\'' :: '\'' :: '\'' :: cs => readMultiLiteral (dropFirstBreak cs)
  | '\'' :: cs => readLiteral cs
  | _ => none

/-! ## Keys -/

def isBare (c : Char) : Bool := c.isAlphanum || c == '-' || c == '_'

/-- A key without dots. -/
def readSimpleKey : List Char → Option (String × List Char)
  | '"' :: cs => (readBasic cs).map fun (k, rest) => (String.ofList k, rest)
  | '\'' :: cs => (readLiteral cs).map fun (k, rest) => (String.ofList k, rest)
  | cs =>
    let k := cs.takeWhile isBare
    if k.isEmpty then none else some (String.ofList k, cs.dropWhile isBare)

/-- The parts of a key, which dots separate, if there are no more than `n`. -/
def readParts : Nat → List Char → Option (List String × List Char)
  | 0, _ => none
  | n + 1, cs => do
    let (k, rest) ← readSimpleKey (skipGap cs)
    match skipGap rest with
    | '.' :: r =>
      let (ks, rest) ← readParts n r
      return (k :: ks, rest)
    | r => return ([k], r)

/-- How deep values may nest, and how many parts a key may have. -/
def maxDepth : Nat := 80

/-- A key and the text after it and its blanks. -/
def readKey (cs : List Char) : Option (List String × List Char) := readParts maxDepth cs

end CatalogCrawl.Toml
