import ServiceContainer.Json.Reader

/-!
# Texts of a TOML document

## Main definitions

* `newline?`, `skipBlank`, `comment`, `skipFiller?` — what stands between values
* `quotedText?` — texts in quotes on a line, with or without escapes
* `longText?` — texts in triple quotes
-/

namespace ServiceContainer.Toml

/-- White space inside a line. -/
def isBlank (c : Char) : Bool := c == ' ' || c == '\t'

/-- A character that may stand in comments and texts. -/
def isPlain (c : Char) : Bool := c == '\t' || (0x20 ≤ c.toNat && c.toNat != 0x7F)

/-- The text without white space at its front. -/
def skipBlank (cs : List Char) : List Char := cs.dropWhile isBlank

/-- The text after a line break. -/
def newline? : List Char → Option (List Char)
  | '\n' :: rest => some rest
  | '\r' :: '\n' :: rest => some rest
  | _ => none

/-- The text after a comment, if one begins here. -/
def skipComment : List Char → List Char
  | '#' :: rest => rest.dropWhile isPlain
  | cs => cs

/-- The text after white space and a comment up to the end of the line. -/
def lineEnd? (cs : List Char) : Option (List Char) :=
  match skipComment (skipBlank cs) with
  | [] => some []
  | cs => newline? cs

/-- The text after white space, line breaks and comments, which must end with their lines; `fuel` bounds the
lines. -/
def skipFillerUpTo : Nat → List Char → Option (List Char)
  | 0, _ => none
  | fuel + 1, cs =>
    match skipBlank cs with
    | '#' :: rest => do skipFillerUpTo fuel (← newline? (rest.dropWhile isPlain))
    | '\n' :: rest => skipFillerUpTo fuel rest
    | '\r' :: rest => do skipFillerUpTo fuel (← newline? ('\r' :: rest))
    | cs => some cs

/-- The text after white space, line breaks and comments. -/
def skipFiller? (cs : List Char) : Option (List Char) := skipFillerUpTo (cs.length + 1) cs

/-! ### Escapes -/

/-- The number of hexadecimal digits. -/
def hexNumber? (digits : List Char) : Option Nat :=
  digits.foldlM (fun n c => (Json.hexValue? c).map (n * 16 + ·)) 0

/-- The character of a number of `count` hexadecimal digits. -/
def numbered? (count : Nat) (cs : List Char) : Option (Char × List Char) := do
  let digits := cs.take count
  if digits.length < count then none
  let n ← hexNumber? digits
  if h : n.isValidChar then some (Char.ofNatAux n h, cs.drop count) else none

/-- The character that an escape stands for, after its backslash. -/
def escape? : List Char → Option (Char × List Char)
  | 'u' :: rest => numbered? 4 rest
  | 'U' :: rest => numbered? 8 rest
  | 'b' :: rest => some ('\x08', rest)
  | 'f' :: rest => some ('\x0c', rest)
  | 'n' :: rest => some ('\n', rest)
  | 'r' :: rest => some ('\r', rest)
  | 't' :: rest => some ('\t', rest)
  | '\\' :: rest => some ('\\', rest)
  | '\x22' :: rest => some ('\x22', rest)
  | _ => none

/-- A text under a quote: the quote, and whether a backslash begins an escape. -/
structure QuoteStyle where
  quote : Char
  escapes : Bool

/-- Texts with escapes. -/
def QuoteStyle.basic : QuoteStyle := ⟨'\x22', true⟩

/-- Texts as they are. -/
def QuoteStyle.literal : QuoteStyle := ⟨'\'', false⟩

/-- The style of the texts that begin with a character. -/
def QuoteStyle.ofChar? (c : Char) : Option QuoteStyle :=
  if c == '\x22' then some .basic else if c == '\'' then some .literal else none

/-- The characters up to the closing quote; `fuel` bounds them. -/
def quotedUpTo (style : QuoteStyle) : Nat → List Char → Option (List Char × List Char)
  | 0, _ => none
  | _, [] => none
  | fuel + 1, c :: rest =>
    if c == style.quote then some ([], rest)
    else if style.escapes && c == '\\' then do
      let (x, rest) ← escape? rest
      let (xs, rest) ← quotedUpTo style fuel rest
      some (x :: xs, rest)
    else if isPlain c then do
      let (xs, rest) ← quotedUpTo style fuel rest
      some (c :: xs, rest)
    else none

/-- A text on a line, after its opening quote. -/
def quotedText? (style : QuoteStyle) (cs : List Char) : Option (String × List Char) :=
  (quotedUpTo style (cs.length + 1) cs).map fun (xs, rest) => (String.ofList xs, rest)

/-- The text after a backslash at the end of a line: the white space that follows does not count. -/
def lineContinuation? (cs : List Char) : Option (List Char) :=
  (newline? (skipBlank cs)).map skipSpaces
where
  /-- The text without white space and line breaks at its front. -/
  skipSpaces : List Char → List Char
    | [] => []
    | '\r' :: '\n' :: rest => skipSpaces rest
    | c :: rest => if isBlank c || c == '\n' then skipSpaces rest else c :: rest

/-- The characters up to three quotes, which one or two more may precede; `fuel` bounds them. -/
def longUpTo (style : QuoteStyle) : Nat → List Char → Option (List Char × List Char)
  | 0, _ => none
  | _, [] => none
  | fuel + 1, c :: rest =>
    if c == style.quote then
      let quotes := (c :: rest).takeWhile (· == c)
      if quotes.length < 3 then do
        let (xs, rest) ← longUpTo style fuel ((c :: rest).drop quotes.length)
        some (quotes ++ xs, rest)
      else
        let extra := min (quotes.length - 3) 2
        some (List.replicate extra c, (c :: rest).drop (extra + 3))
    else if style.escapes && c == '\\' then
      match lineContinuation? rest with
      | some rest => longUpTo style fuel rest
      | none => do
        let (x, rest) ← escape? rest
        let (xs, rest) ← longUpTo style fuel rest
        some (x :: xs, rest)
    else
      match newline? (c :: rest) with
      | some rest => do
        let (xs, rest) ← longUpTo style fuel rest
        some ('\n' :: xs, rest)
      | none =>
        if isPlain c then do
          let (xs, rest) ← longUpTo style fuel rest
          some (c :: xs, rest)
        else none

/-- A text after its three opening quotes, and after the line break that may follow them. -/
def longText? (style : QuoteStyle) (cs : List Char) : Option (String × List Char) :=
  let cs := (newline? cs).getD cs
  (longUpTo style (cs.length + 1) cs).map fun (xs, rest) => (String.ofList xs, rest)

end ServiceContainer.Toml
