import ServiceContainer.Toml.Scalar
import ServiceContainer.Toml.Table

/-!
# Reading TOML

## Main definitions

* `key?` — dotted keys
* `value` — values
* `read?` — documents
-/

namespace ServiceContainer.Toml

/-! ### Keys -/

/-- A character of a key without quotes. -/
def isBareKey (c : Char) : Bool := c.isAlphanum || c == '-' || c == '_'

/-- A part of a key. -/
def keyPart? (cs : List Char) : Option (String × List Char) :=
  match cs with
  | [] => none
  | c :: rest =>
    match QuoteStyle.ofChar? c with
    | some style => quotedText? style rest
    | none =>
      match cs.takeWhile isBareKey with
      | [] => none
      | part => some (String.ofList part, cs.dropWhile isBareKey)

/-- The parts of a key with points between them; `fuel` bounds their number. -/
def keyParts : Nat → List Char → Option (List String × List Char)
  | 0, _ => none
  | fuel + 1, cs => do
    let (part, rest) ← keyPart? (skipBlank cs)
    match skipBlank rest with
    | '.' :: rest =>
      let (parts, rest) ← keyParts fuel rest
      some (part :: parts, rest)
    | rest => some ([part], rest)

/-- No key has this many parts, and no value stands inside this many others. -/
def depthLimit : Nat := 80

/-- A dotted key: the tables that lead to it, its last part, and the rest of the text. -/
def key? (cs : List Char) : Option (List String × String × List Char) := do
  let (parts, rest) ← keyParts (depthLimit - 1) cs
  some (parts.dropLast, ← parts.getLast?, rest)

/-! ### Values -/

/-- A text in either style. -/
def text? (style : QuoteStyle) (cs : List Char) : Option (Document × List Char) :=
  let q := style.quote
  match cs with
  | a :: b :: rest =>
    if a == q && b == q then (longText? style rest).map fun (s, rest) => (.text s, rest)
    else (quotedText? style cs).map fun (s, rest) => (.text s, rest)
  | cs => (quotedText? style cs).map fun (s, rest) => (.text s, rest)

/-- A value that has no others inside. -/
def scalar? (cs : List Char) : Option (Document × List Char) :=
  match cs with
  | 't' :: _ => (Json.afterWord? "true" cs).map (.boolean true, ·)
  | 'f' :: _ => (Json.afterWord? "false" cs).map (.boolean false, ·)
  | c :: rest =>
    match QuoteStyle.ofChar? c with
    | some style => text? style rest
    | none => if beginsMoment cs then moment? cs else number? cs
  | [] => none

mutual

/-- A value inside `depth` others; `fuel` bounds the characters read. -/
def value : Nat → Nat → List Char → Option (Document × List Char)
  | 0, _, _ => none
  | fuel + 1, depth, cs =>
    match cs with
    | '[' :: rest =>
      if depth + 1 < depthLimit then do
        let (xs, rest) ← items fuel (depth + 1) rest
        some (.list xs, rest)
      else none
    | '\x7b' :: rest =>
      if depth + 1 < depthLimit then
        match skipBlank rest with
        | '\x7d' :: rest => some (.record [], rest)
        | rest => do
          let (node, rest) ← fields fuel (depth + 1) (.table .header []) rest
          some (node.document, rest)
      else none
    | cs => scalar? cs

/-- The items of a list up to its end. A comma may follow the last one. -/
def items : Nat → Nat → List Char → Option (List Document × List Char)
  | 0, _, _ => none
  | fuel + 1, depth, cs => do
    match ← skipFiller? cs with
    | ']' :: rest => some ([], rest)
    | cs =>
      let (x, rest) ← value fuel depth cs
      match ← skipFiller? rest with
      | ',' :: rest =>
        let (xs, rest) ← items fuel depth rest
        some (x :: xs, rest)
      | ']' :: rest => some ([x], rest)
      | _ => none

/-- The entries of a table up to its end, after those that `node` has. -/
def fields : Nat → Nat → Node → List Char → Option (Node × List Char)
  | 0, _, _, _ => none
  | fuel + 1, depth, node, cs => do
    let (path, key, rest) ← key? cs
    let (x, rest) ← value fuel depth (skipBlank (← after? '=' rest))
    let node ← node.insert? path key x
    match skipBlank rest with
    | ',' :: rest => fields fuel depth node rest
    | '\x7d' :: rest => some (node, rest)
    | _ => none

end

/-! ### Lines -/

/-- A header after its opening brackets, and the rest of the text after its line. -/
def header? (isRow : Bool) (cs : List Char) : Option (Header × List Char) := do
  let (path, key, rest) ← key? cs
  let rest ← after? ']' rest
  let rest ← if isRow then after? ']' rest else some rest
  some (⟨path, key, isRow⟩, ← lineEnd? rest)

/-- The document of the lines that follow those of a layout; `fuel` bounds their number. -/
def lines : Nat → Layout → List Char → Option Node
  | 0, _, _ => none
  | fuel + 1, layout, cs =>
    match skipBlank cs with
    | [] => layout.close?
    | '[' :: '[' :: rest => do
      let (h, rest) ← header? true rest
      lines fuel (← layout.open? h) rest
    | '[' :: rest => do
      let (h, rest) ← header? false rest
      lines fuel (← layout.open? h) rest
    | c :: rest =>
      if c == '#' || c == '\n' || c == '\r' then do lines fuel layout (← lineEnd? (c :: rest))
      else do
        let (path, key, rest) ← key? (c :: rest)
        let rest := skipBlank (← after? '=' rest)
        let (x, rest) ← value (rest.length + 1) 0 rest
        lines fuel (← layout.insert? path key x) (← lineEnd? rest)

/-- The text without the mark that may stand at the front of a file. -/
def skipMark : List Char → List Char
  | '\uFEFF' :: rest => rest
  | cs => cs

/-- The document that a text is. -/
def read? (text : String) : Option Document :=
  let cs := skipMark text.toList
  (lines (cs.length + 1) .empty cs).map Node.document

end ServiceContainer.Toml
