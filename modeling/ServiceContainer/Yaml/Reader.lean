import ServiceContainer.Yaml.Node
import ServiceContainer.Yaml.Scalar

/-!
# Reading YAML

One document of tables and lists, in lines or in brackets, with texts in all ways to write them, names of nodes and
kinds of values.

## Main definitions

* `flow` — nodes inside brackets
* `node`, `block` — nodes in lines
* `read?` — documents
-/

namespace ServiceContainer.Yaml

/-! ### What stands before a node -/

/-- The name after an ampersand or an asterisk. -/
def anchorName? (cs : List Char) : Option (String × List Char) :=
  let ends (c : Char) : Bool := isBlank c || isFlow c || c == '\n'
  let name := cs.takeWhile (!ends ·)
  if name.isEmpty then none else some (String.ofList name, cs.drop name.length)

/-- The kind of value after an exclamation mark: a kind of the language's own or one that makes the value a text. -/
def tag? (cs : List Char) : Option (String × List Char) :=
  let name := cs.takeWhile fun c => !isBlank c && !isFlow c && c != '\n'
  let rest := cs.drop name.length
  let own := "<tag:yaml.org,2002:".toList
  match name with
  | '!' :: kind => some (String.ofList kind, rest)
  | _ =>
    if name.take own.length == own && name.getLast? == some '>' then
      some (String.ofList ((name.drop own.length).dropLast), rest)
    else some ("str", rest)

/-- The node that a text without quotes is. -/
def plainNode (tag : Option String) (s : String) : Node :=
  .value (match tag with
    | some tag => taggedValue tag s
    | none => valueOf s)

/-- A character that marks what follows, which a gap separates from it, stands at the front. -/
def atMark (mark : Char) : List Char → Bool
  | c :: rest => c == mark && atGap rest
  | [] => false

/-! ### Nodes in brackets -/

/-- The text after blanks, line breaks and comments; the front stands in a comment, or after a blank. -/
def skipGaps (comment blank : Bool) : List Char → List Char
  | c :: rest =>
    if comment then skipGaps (c != '\n') true rest
    else if isBlank c || c == '\n' then skipGaps false true rest
    else if c == '#' && blank then skipGaps true true rest
    else c :: rest
  | [] => []

/-- So many lists and tables in brackets nest at most. -/
def flowLimit : Nat := 255

mutual

/-- The node at the front, inside `depth` more brackets at most; `fuel` bounds the parts of it. -/
def flow (floor depth : Nat) (tag : Option String) : Nat → List Char → Option (Node × List Char)
  | 0, _ => none
  | fuel + 1, cs =>
    match skipGaps false true cs with
    | '[' :: rest =>
      if depth = 0 then none
      else (flowItems floor (depth - 1) true fuel rest).map fun (items, rest) => (.list items, rest)
    | '\x7b' :: rest =>
      if depth = 0 then none
      else (flowEntries floor (depth - 1) true fuel rest).map fun (entries, rest) => (.table entries, rest)
    | '&' :: rest => do
      let (name, rest) ← anchorName? rest
      let (inner, rest) ← flow floor depth tag fuel rest
      return (.anchor name inner, rest)
    | '*' :: rest => (anchorName? rest).map fun (name, rest) => (.alias name, rest)
    | '!' :: rest => do
      let (tag, rest) ← tag? rest
      flow floor depth (some tag) fuel rest
    | cs =>
      match quoted? floor cs with
      | some (s, rest) => some (.value (.text s), rest)
      | none =>
        match plain? true floor cs with
        | some (s, rest) => some (plainNode tag s, rest)
        | none => if (cs.head?.map isFlow).getD false then some (plainNode tag "", cs) else none

/-- The value after a colon, if there is one. -/
def flowValue (floor depth : Nat) : Nat → List Char → Option (Option Node × List Char)
  | 0, _ => none
  | fuel + 1, cs =>
    match skipGaps false true cs with
    | ':' :: rest => (flow floor depth none fuel rest).map fun (node, rest) => (some node, rest)
    | rest => some (none, rest)

/-- The items of a list up to its bracket, before the first of them or not. -/
def flowItems (floor depth : Nat) (first : Bool) : Nat → List Char → Option (List Node × List Char)
  | 0, _ => none
  | fuel + 1, cs => do
    let cs := skipGaps false true cs
    if cs.head? == some ']' then return ([], cs.tail)
    let cs ← if first then some cs else if cs.head? == some ',' then some (skipGaps false true cs.tail) else none
    if cs.head? == some ']' then return ([], cs.tail)
    if cs.head? == some ',' then none
    let (key, rest) ← flow floor depth none fuel cs
    let (value, rest) ← flowValue floor depth fuel rest
    let item := match value with
      | some value => .table [(key, value)]
      | none => key
    let (items, rest) ← flowItems floor depth false fuel rest
    return (item :: items, rest)

/-- The entries of a table up to its brace, before the first of them or not. -/
def flowEntries (floor depth : Nat) (first : Bool) : Nat → List Char → Option (List (Node × Node) × List Char)
  | 0, _ => none
  | fuel + 1, cs => do
    let cs := skipGaps false true cs
    if cs.head? == some '\x7d' then return ([], cs.tail)
    let cs ← if first then some cs else if cs.head? == some ',' then some (skipGaps false true cs.tail) else none
    if cs.head? == some '\x7d' then return ([], cs.tail)
    if cs.head? == some ',' then none
    let (key, rest) ← flow floor depth none fuel (if atMark '?' cs then cs.drop 1 else cs)
    let (value, rest) ← flowValue floor depth fuel rest
    let (entries, rest) ← flowEntries floor depth false fuel rest
    return ((key, value.getD (.value .null)) :: entries, rest)

end

/-! ### Nodes in lines -/

/-- The text after the colon of a key, which a gap follows; no letter stands behind tabs alone. -/
def afterColon? (cs : List Char) : Option (List Char) :=
  match skipBlanks cs with
  | ':' :: rest =>
    let gap := rest.takeWhile isBlank
    let next := (rest.drop gap.length).head?
    let joined := next.any fun c => c.isAlphanum || c == '_' || c == '-'
    if !atGap rest || (!gap.isEmpty && !gap.contains ' ' && joined) then none else some rest
  | _ => none

/-- The key at the front, which stands on one line, and the text after its colon. -/
def key? (cs : List Char) : Option (Node × List Char) := do
  let (line, _) := splitLine cs
  let (key, rest) ← match quoted? 0 line with
    | some (s, rest) => some (Node.value (.text s), rest)
    | none => (plain? false 0 line).map fun (s, rest) => (.value (valueOf s), rest)
  let rest ← afterColon? rest
  return (key, cs.drop (line.length - rest.length))

/-- The text after a colon that begins the next line at a column. -/
def colonLine? (column : Nat) (cs : List Char) : Option (List Char) :=
  match content? 0 false cs with
  | some (next, inner) => if next == column && atMark ':' inner then some (inner.drop 1) else none
  | none => none

/-- A node in brackets, in quotes or in neither, and the text after its last line. -/
def inline (floor : Nat) (tag : Option String) (cs : List Char) : Option (Node × List Char) := do
  let (node, rest) ←
    if cs.head? == some '[' || cs.head? == some '\x7b' then flow floor flowLimit none (4 * cs.length + 8) cs
    else
      match quoted? floor cs with
      | some (s, rest) => some (.value (.text s), rest)
      | none => (plain? false floor cs).map fun (s, rest) => (plainNode tag s, rest)
  return (node, ← lineEnd? rest)

mutual

/-- The node whose text begins at the front, on this line or a later one that stands at least at the column `floor`; a
list may also stand at the column `dash`. The rest begins with a line. `fuel` bounds the parts of the node. -/
def node (floor : Nat) (dash : Option Nat) (tag : Option String) : Nat → List Char → Option (Node × List Char)
  | 0, _ => none
  | fuel + 1, cs =>
    match lineEnd? cs with
    | some text =>
      match content? 0 false text with
      | some (column, inner) =>
        if floor ≤ column then block floor column tag fuel inner
        else if dash == some column && atMark '-' inner then
          (items column fuel inner).map fun (xs, rest) => (.list xs, rest)
        else some (plainNode tag "", text)
      | none => some (plainNode tag "", [])
    | none =>
      match skipBlanks cs with
      | '&' :: rest => do
        let (name, rest) ← anchorName? rest
        if !atGap rest then none
        let (inner, rest) ← node floor dash tag fuel rest
        return (.anchor name inner, rest)
      | '*' :: rest => do
        let (name, rest) ← anchorName? rest
        return (.alias name, ← lineEnd? rest)
      | '!' :: rest => do
        let (tag, rest) ← tag? rest
        if !atGap rest then none
        node floor dash (some tag) fuel rest
      | cs =>
        match blockText? floor cs with
        | some (s, rest) => some (.value (.text s), rest)
        | none => inline floor tag cs
termination_by structural fuel => fuel

/-- The node that begins at the front, which is at a column: a list, a table, or something else. -/
def block (floor column : Nat) (tag : Option String) : Nat → List Char → Option (Node × List Char)
  | 0, _ => none
  | fuel + 1, cs =>
    if atMark '-' cs then (items column fuel cs).map fun (xs, rest) => (.list xs, rest)
    else if atMark '?' cs || (key? cs).isSome then (entries column fuel cs).map fun (xs, rest) => (.table xs, rest)
    else node floor none tag fuel cs
termination_by structural fuel => fuel

/-- The items of a list from a dash on, which stands at a column. -/
def items (column : Nat) : Nat → List Char → Option (List Node × List Char)
  | 0, _ => none
  | fuel + 1, cs => do
    let text := cs.drop 1
    let gap := text.takeWhile isBlank
    let body := text.drop gap.length
    let (first, rest) ←
      if (lineEnd? text).isNone && (atMark '-' body || (key? body).isSome) then
        if gap.contains '\t' then none else block (column + 1) (column + 1 + gap.length) none fuel body
      else node (column + 1) none none fuel text
    match content? 0 false rest with
    | some (next, inner) =>
      if column < next then none
      else if next == column && atMark '-' inner then
        let (more, rest) ← items column fuel inner
        return (first :: more, rest)
      else return ([first], rest)
    | none => return ([first], [])
termination_by structural fuel => fuel

/-- The entries of a table from a key on, which stands at a column. -/
def entries (column : Nat) : Nat → List Char → Option (List (Node × Node) × List Char)
  | 0, _ => none
  | fuel + 1, cs => do
    let (key, after) ←
      if atMark '?' cs then do
        let (key, rest) ← node (column + 1) (some column) none fuel (cs.drop 1)
        some (key, (colonLine? column rest).getD ('\n' :: rest))
      else key? cs
    let (value, rest) ← node (column + 1) (some column) none fuel after
    match content? 0 false rest with
    | some (next, inner) =>
      if column < next then none
      else if next == column then
        let (more, rest) ← entries column fuel inner
        return ((key, value) :: more, rest)
      else return ([(key, value)], rest)
    | none => return ([(key, value)], [])
termination_by structural fuel => fuel

end

/-! ### Documents -/

/-- The lines of a text, without the characters that end them. -/
def lines (text : String) : List (List Char) :=
  (((text.replace "\r\n" "\n").replace "\r" "\n").splitOn "\n").map String.toList

/-- The part of a text that is a document, in lines. -/
structure Part where
  /-- A mark stands before the document, and the first line after that on the same line. -/
  isMarked : Bool
  body : List (List Char)
  deriving Repr

/-- The lines hold more than blanks and comments. -/
def hasContent (body : List (List Char)) : Bool := (content? 0 false (List.intercalate ['\n'] body)).isSome

/-- The parts of a text: three dashes begin one, three points end one. The part at the end of the text so far is given
with its lines from last to first. None when a line that ends a part holds more. -/
def parts (marked : Bool) (body : List (List Char)) : List (List Char) → Option (List Part)
  | [] => some [⟨marked, body.reverse⟩]
  | line :: rest =>
    match line with
    | '-' :: '-' :: '-' :: after =>
      if atGap after then (parts true [after] rest).map (⟨marked, body.reverse⟩ :: ·)
      else parts marked (line :: body) rest
    | '.' :: '.' :: '.' :: after =>
      if !atGap after then parts marked (line :: body) rest
      else if (lineEnd? after).isNone then none
      else (parts false [] rest).map (⟨marked, body.reverse⟩ :: ·)
    | line => parts marked (line :: body) rest

/-- The parts that are documents. Lines before a mark that begin with a percent sign are about the reader and no
part; they need the mark. -/
def documents : List Part → Option (List Part)
  | [] => some []
  | part :: rest =>
    if part.isMarked then (documents rest).map (part :: ·)
    else
      let others := part.body.filter (·.head? != some '%')
      if hasContent others then (documents rest).map (part :: ·)
      else if others.length != part.body.length && !(rest.head?.map Part.isMarked).getD false then none
      else documents rest

/-- The node of a document. -/
def Part.node? (part : Part) : Option Node := do
  let text := List.intercalate ['\n'] part.body
  let fuel := 4 * text.length + 8
  let (root, rest) ←
    if part.isMarked then node 0 none none fuel text
    else
      let (column, inner) ← content? 0 false text
      let tabs := (inner.takeWhile isBlank).length
      block 0 (column + tabs) none fuel (inner.drop tabs)
  if (content? 0 false rest).isSome then none else some root

/-- The document that a text is. A text without one is an empty table. -/
def read? (text : String) : Option Document := do
  match ← documents (← parts false [] (lines text)) with
  | [] => return .record []
  | [part] => (← part.node?).resolve [] |>.map (·.1)
  | _ => none

end ServiceContainer.Yaml
