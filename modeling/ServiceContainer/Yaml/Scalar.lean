import ServiceContainer.Json.Reader
import ServiceContainer.Number.Literal

/-!
# Scalars of YAML

Texts without quotes, in quotes and in blocks, and what a text without quotes stands for. The functions read from the
front of a text and give the rest of it.

## Main definitions

* `valueOf`, `taggedValue` — what a text without quotes stands for
* `quoted`, `plain`, `blockText` — the three ways to write a text
-/

namespace ServiceContainer.Yaml

open Number

/-! ### Values -/

/-- An integer of 64 bits in digits of a base, with a sign or without. -/
def based? (base : Nat) (cs : List Char) : Option Int := do
  let (negative, digits) := splitSign cs
  if digits.isEmpty then none
  let n ← digits.foldlM (fun n c => (Json.hexValue? c).bind fun d => if d < base then some (n * base + d) else none) 0
  let n : Int := if negative then -(n : Int) else n
  if isWord n then some n else none

/-- The integer that a text is. -/
def integerOf? (s : String) : Option Int :=
  let based := match s.toList with
    | '0' :: 'x' :: digits => based? 16 digits
    | '0' :: 'o' :: digits => based? 8 digits
    | '+' :: rest => integer? (String.ofList rest)
    | _ => none
  based.orElse fun _ => integer? s

/-- The words for numbers that are not finite. They stand for no value that a table can hold. -/
def boundless : List String :=
  [".inf", ".Inf", ".INF", "+.inf", "+.Inf", "+.INF", "-.inf", "-.Inf", "-.INF", ".nan", ".NAN"]

/-- The binary number that a text with a digit is. -/
def decimalOf? (s : String) : Option Document :=
  if boundless.contains s then some .broken
  else if s == "NaN" then some (.decimal .nan)
  else if s.toList.any Char.isDigit then (decimal? s).map .decimal
  else none

/-- What a text without quotes stands for. -/
def valueOf (s : String) : Document :=
  match integerOf? s with
  | some n => .integer n
  | none =>
    if ["", "~", "null"].contains s then .null
    else if s == "true" then .boolean true
    else if s == "false" then .boolean false
    else (decimalOf? s).getD (.text s)

/-- What a text without quotes stands for after the name of its kind. A text that is none of the kind is nothing. -/
def taggedValue (tag : String) (s : String) : Document :=
  if tag == "bool" then
    if s == "true" then .boolean true else if s == "false" then .boolean false else .null
  else if tag == "int" then ((integer? s).map .integer).getD .null
  else if tag == "float" then (decimalOf? s).getD .null
  else if tag == "null" then .null
  else .text s

/-! ### Lines -/

/-- A blank inside a line. -/
def isBlank (c : Char) : Bool := c == ' ' || c == '\t'

/-- The text without the blanks at its front. -/
def skipBlanks (cs : List Char) : List Char := cs.dropWhile isBlank

/-- A blank, a line break or the end of the text stands at the front. -/
def atGap : List Char → Bool
  | [] => true
  | c :: _ => isBlank c || c == '\n'

/-- The first line, and the text after it. -/
def splitLine (cs : List Char) : List Char × List Char :=
  (cs.takeWhile (· != '\n'), (cs.dropWhile (· != '\n')).drop 1)

/-- The text after this line, of which only blanks and a comment are left. -/
def lineEnd? (cs : List Char) : Option (List Char) :=
  match skipBlanks cs with
  | [] => some []
  | '\n' :: rest => some rest
  | '#' :: rest => if atGap cs then some (splitLine rest).2 else none
  | _ => none

/-- The first line that holds more than blanks and a comment: how far it is indented, and the text from there. The front
of the text stands at a column, in a comment or not. -/
def content? (column : Nat) (comment : Bool) : List Char → Option (Nat × List Char)
  | [] => none
  | '\n' :: rest => content? 0 false rest
  | c :: rest =>
    if comment then content? column true rest
    else if c == ' ' then content? (column + 1) false rest
    else if c == '#' || (c == '\t' && (lineEnd? (c :: rest)).isSome) then content? column true rest
    else some (column, c :: rest)

/-- The number of line breaks at the front, and the text from the next character on, which stands at least at the
column `floor`. The front stands at a column itself. -/
def breaks? (floor column count : Nat) : List Char → Option (Nat × List Char)
  | [] => some (count, [])
  | c :: rest =>
    if c == '\n' then breaks? floor 0 (count + 1) rest
    else if isBlank c then breaks? floor (column + 1) count rest
    else if floor ≤ column then some (count, c :: rest)
    else none

/-- What a line break and some more stand for inside a text. -/
def folded (more : Nat) : List Char := if more = 0 then [' '] else List.replicate more '\n'

/-! ### Quotes -/

/-- The character that a letter after a backslash stands for. -/
def escaped? (c : Char) : Option Char :=
  [('0', 0x00), ('a', 0x07), ('b', 0x08), ('t', 0x09), ('\t', 0x09), ('n', 0x0A), ('v', 0x0B), ('f', 0x0C), ('r', 0x0D),
   ('e', 0x1B), (' ', 0x20), ('\x22', 0x22), ('/', 0x2F), ('\\', 0x5C), ('N', 0x85), ('_', 0xA0), ('L', 0x2028),
   ('P', 0x2029)].lookup c |>.map Char.ofNat

/-- How many hexadecimal digits follow a letter after a backslash. -/
def escapeWidth? (c : Char) : Option Nat := [('x', 2), ('u', 4), ('U', 8)].lookup c

/-- The character that some hexadecimal digits stand for. -/
def numbered? (digits : List Char) : Option Char := do
  let n := (← digits.mapM Json.hexValue?).foldl (fun n d => n * 16 + d) 0
  if n < 0xD800 || (0xE000 ≤ n && n < 0x110000) then some (Char.ofNat n) else none

/-- What a backslash and the text after it stand for. -/
def escape? (floor : Nat) : List Char → Option (List Char × List Char)
  | [] => none
  | '\n' :: rest => (breaks? floor 0 0 rest).map fun (more, rest) => (List.replicate more '\n', rest)
  | c :: rest =>
    match escapeWidth? c with
    | some width =>
      if rest.length < width then none
      else (numbered? (rest.take width)).map fun x => ([x], rest.drop width)
    | none => (escaped? c).map fun x => ([x], rest)

/-- The text up to a quote, which in single quotes is no end when it is written twice. Further lines start at least at
the column `floor`. The characters before are given from last to first, without the blanks that may end a line;
`fuel` bounds the characters read. -/
def quoted (quote : Char) (floor : Nat) : Nat → List Char → List Char → List Char → Option (String × List Char)
  | 0, _, _, _ => none
  | _, _, _, [] => none
  | fuel + 1, before, blanks, c :: rest =>
    if c == quote then
      match rest with
      | d :: rest =>
        if quote == '\'' && d == quote then quoted quote floor fuel (d :: blanks ++ before) [] rest
        else some (String.ofList (blanks ++ before).reverse, d :: rest)
      | [] => some (String.ofList (blanks ++ before).reverse, [])
    else if isBlank c then quoted quote floor fuel before (c :: blanks) rest
    else if c == '\n' then
      match breaks? floor 0 0 rest with
      | some (more, rest) => quoted quote floor fuel (folded more ++ before) [] rest
      | none => none
    else if c == '\\' && quote == '\x22' then
      match escape? floor rest with
      | some (xs, rest) => quoted quote floor fuel (xs ++ blanks ++ before) [] rest
      | none => none
    else quoted quote floor fuel (c :: blanks ++ before) [] rest

/-- The text in quotes at the front. -/
def quoted? (floor : Nat) : List Char → Option (String × List Char)
  | c :: rest => if c == '\'' || c == '\x22' then quoted c floor (rest.length + 1) [] [] rest else none
  | [] => none

/-! ### Without quotes -/

/-- A character that structures lists and tables inside a line. -/
def isFlow (c : Char) : Bool := [',', '[', ']', '\x7b', '\x7d'].contains c

/-- The characters, besides those that structure a line, that begin no text without quotes. -/
def plainBar : List Char := ['#', '&', '*', '!', '|', '>', '\'', '\x22', '%', '@', '\x60']

/-- A text without quotes can stand at the front, inside brackets or outside. -/
def startsPlain (inFlow : Bool) : List Char → Bool
  | [] => false
  | c :: rest =>
    if ['-', '?', ':'].contains c then !atGap rest && !(inFlow && (rest.head?.map isFlow).getD false)
    else !isBlank c && c != '\n' && !isFlow c &&
      !plainBar.contains c

/-- The text up to a colon with a gap after it, to a comment, or to a line that does not belong to it. Further lines
start at least at the column `floor`; inside brackets, the characters that structure them end the text as well. -/
def plain (inFlow : Bool) (floor : Nat) : Nat → List Char → List Char → List Char → String × List Char
  | fuel + 1, before, blanks, c :: rest =>
    let ends := (c == ':' && (atGap rest || (inFlow && (rest.head?.map isFlow).getD false))) ||
      (c == '#' && !blanks.isEmpty) || (inFlow && isFlow c)
    if ends then (String.ofList before.reverse, blanks.reverse ++ c :: rest)
    else if isBlank c then plain inFlow floor fuel before (c :: blanks) rest
    else if c == '\n' then
      match breaks? floor 0 0 rest with
      | some (more, d :: after) =>
        if d == '#' then (String.ofList before.reverse, c :: rest)
        else plain inFlow floor fuel (folded more ++ before) [] (d :: after)
      | _ => (String.ofList before.reverse, c :: rest)
    else plain inFlow floor fuel (c :: blanks ++ before) [] rest
  | _, before, blanks, cs => (String.ofList before.reverse, blanks.reverse ++ cs)

/-- The text without quotes at the front. -/
def plain? (inFlow : Bool) (floor : Nat) (cs : List Char) : Option (String × List Char) :=
  if startsPlain inFlow cs then some (plain inFlow floor (cs.length + 1) [] [] cs) else none

/-! ### Blocks of text -/

/-- What becomes of the line breaks at the end of a block of text. -/
inductive Chomping where
  | strip | clip | keep
  deriving DecidableEq, Repr

/-- How the lines of a block of text are read. -/
structure BlockStyle where
  /-- Line breaks become blanks. -/
  isFolded : Bool
  chomping : Chomping := .clip
  /-- How much further the lines are indented than the node around them. -/
  indent? : Option Nat := none
  deriving Repr

/-- The style that the characters after the first give, at most two. -/
def BlockStyle.refine (style : BlockStyle) : List Char → BlockStyle × List Char
  | '-' :: rest => digit { style with chomping := .strip } rest
  | '+' :: rest => digit { style with chomping := .keep } rest
  | c :: rest =>
    if '1' ≤ c && c ≤ '9' then
      let style := { style with indent? := some (c.toNat - 48) }
      match rest with
      | '-' :: rest => ({ style with chomping := .strip }, rest)
      | '+' :: rest => ({ style with chomping := .keep }, rest)
      | rest => (style, rest)
    else (style, c :: rest)
  | [] => (style, [])
where
  /-- The style with a digit that follows. -/
  digit (style : BlockStyle) : List Char → BlockStyle × List Char
    | c :: rest =>
      if '1' ≤ c && c ≤ '9' then ({ style with indent? := some (c.toNat - 48) }, rest) else (style, c :: rest)
    | [] => (style, [])

/-- The indentation of the first line that is more than blanks, or that of a longer one before it. -/
def firstIndent (longest column : Nat) : List Char → Nat
  | ' ' :: rest => firstIndent longest (column + 1) rest
  | '\n' :: rest => firstIndent (max longest column) 0 rest
  | _ => max longest column

/-- The lines of a block of text, without their indentation, and the text after them. A line without any more is
none. `fuel` bounds the lines. -/
def blockLines (floor indent : Nat) : Nat → List Char → Option (List (Option (List Char)) × List Char)
  | fuel + 1, cs@(_ :: _) =>
    let (line, rest) := splitLine cs
    let margin := min indent (line.takeWhile (· == ' ')).length
    match line.drop margin with
    | [] => (blockLines floor indent fuel rest).map fun (lines, rest) => (none :: lines, rest)
    | body =>
      if margin = indent then (blockLines floor indent fuel rest).map fun (lines, rest) => (some body :: lines, rest)
      else if floor ≤ margin then none
      else some ([], cs)
  | _, cs => some ([], cs)

/-- The text of lines after some of it: whether a line came before, whether that one began with a blank, and how many
empty lines followed it. -/
def BlockStyle.join (style : BlockStyle) (before : List Char) (started blank : Bool) (empty : Nat) :
    List (Option (List Char)) → List Char
  | [] =>
    match style.chomping with
    | .strip => before
    | .clip => if started then before ++ ['\n'] else before
    | .keep => before ++ List.replicate (if started then empty + 1 else empty) '\n'
  | none :: rest => join style before started blank (empty + 1) rest
  | some line :: rest =>
    let now := (line.head?.map isBlank).getD false
    let gap :=
      if style.isFolded && started && !blank && !now then folded empty
      else List.replicate (if started then empty + 1 else empty) '\n'
    join style (before ++ gap ++ line) true now 0 rest

/-- The block of text whose first character, which tells whether it is folded, stands at the front. Its lines are
indented at least as far as the column `floor`. -/
def blockText? (floor : Nat) : List Char → Option (String × List Char)
  | c :: rest => do
    if c != '|' && c != '>' then none
    let (style, rest) := BlockStyle.refine { isFolded := c == '>' } rest
    let text ← lineEnd? rest
    let indent := match style.indent? with
      | some n => floor - 1 + n
      | none => max floor (firstIndent 0 0 text)
    let (lines, rest) ← blockLines floor indent (text.length + 1) text
    return (String.ofList (style.join [] false false 0 lines), rest)
  | [] => none

end ServiceContainer.Yaml
