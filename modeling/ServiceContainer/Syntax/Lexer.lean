import ServiceContainer.Syntax.Literal
import ServiceContainer.Syntax.Tree
import ServiceContainer.Text.Quoted

/-!
# Token trees of a text

A text is cut into tokens, and brackets are matched on the way. White space and comments separate tokens; a
documentation comment is short for an attribute and becomes the tokens of that attribute.

## Main definitions

* `skipBlank` — past white space and comments
* `documentation?` — a documentation comment
* `leaf?` — one token
* `trees?` — the token trees of a text, if every bracket is matched
-/

namespace ServiceContainer.Syntax

open ServiceContainer.Text

/-- The rest of the text after a block comment that is open `depth` times. -/
def afterBlock : Nat → List Char → Option (List Char)
  | _, [] => none
  | depth, '/' :: '*' :: rest => afterBlock (depth + 1) rest
  | depth, '*' :: '/' :: rest => if depth ≤ 1 then some rest else afterBlock (depth - 1) rest
  | depth, _ :: rest => afterBlock depth rest

/-- The text of the line and the rest of the text, which keeps the line feed. -/
def splitLine : List Char → List Char × List Char
  | [] => ([], [])
  | '\n' :: rest => ([], '\n' :: rest)
  | '\r' :: '\n' :: rest => ([], '\n' :: rest)
  | c :: rest => let (line, after) := splitLine rest; (c :: line, after)

/-- The text begins with these characters. -/
def startsWith (word : String) (cs : List Char) : Bool := word.toList.isPrefixOf cs

/-- The text begins with a line comment that documents nothing. -/
def startsLineComment (cs : List Char) : Bool :=
  startsWith "//" cs && (!startsWith "///" cs || startsWith "////" cs) && !startsWith "//!" cs

/-- The text begins with a block comment that documents nothing. -/
def startsBlockComment (cs : List Char) : Bool :=
  startsWith "/*" cs && (!startsWith "/**" cs || startsWith "/***" cs || startsWith "/**/" cs)
    && !startsWith "/*!" cs

/-- The text without the white space and comments at its front; `fuel` bounds the characters skipped. -/
def skipBlankUpTo : Nat → List Char → List Char
  | 0, cs => cs
  | _, [] => []
  | fuel + 1, c :: rest =>
    if isBlank c then skipBlankUpTo fuel rest
    else if startsLineComment (c :: rest) then skipBlankUpTo fuel (splitLine (c :: rest)).2
    else if startsBlockComment (c :: rest) then
      match afterBlock 0 (c :: rest) with
      | some rest => skipBlankUpTo fuel rest
      | none => c :: rest
    else c :: rest

/-- The text without the white space and comments at its front. -/
def skipBlank (cs : List Char) : List Char := skipBlankUpTo cs.length cs

/-- Every carriage return stands before a line feed. -/
def hasOnlyLineEnds : List Char → Bool
  | [] => true
  | '\r' :: '\n' :: rest => hasOnlyLineEnds rest
  | '\r' :: _ => false
  | _ :: rest => hasOnlyLineEnds rest

/-- The attribute that documents with the given text. -/
def documentationTrees (inner : Bool) (text : List Char) : List Tree :=
  operator "#" ++ (if inner then operator "!" else [])
    ++ [.group .bracket (.ident "doc" :: operator "=" ++ [.literal (quoted text)])]

/-- The text of a block comment and the rest of the text after it. -/
def blockText (cs : List Char) : Option (List Char × List Char) := do
  let rest ← afterBlock 0 cs
  let comment := cs.take (cs.length - rest.length)
  some ((comment.drop 3).take (comment.length - 5), rest)

/-- A documentation comment at the front of the text: whether it documents what encloses it, its text, and the rest
of the text. -/
def documentationText? (cs : List Char) : Option (Bool × List Char × List Char) :=
  if startsWith "//!" cs then
    let (line, rest) := splitLine (cs.drop 3)
    some (true, line, rest)
  else if startsWith "/*!" cs then (blockText cs).map (true, ·)
  else if startsWith "///" cs then
    if startsWith "////" cs then none
    else
      let (line, rest) := splitLine (cs.drop 3)
      some (false, line, rest)
  else if startsWith "/**" cs && !startsWith "/***" cs then (blockText cs).map (false, ·)
  else none

/-- The trees of a documentation comment at the front of the text and the rest of the text. -/
def documentation? (cs : List Char) : Option (List Tree × List Char) := do
  let (inner, text, rest) ← documentationText? cs
  if hasOnlyLineEnds text then some (documentationTrees inner text, rest) else none

/-- The punctuation characters. -/
def punctuation : List Char := "~!@#$%^&*-=+|;:,<.>/?'".toList

/-- The text begins with a punctuation character that opens no comment. -/
def startsPunct (cs : List Char) : Bool :=
  cs.head?.any punctuation.contains && !startsWith "//" cs && !startsWith "/*" cs

/-- A name at the front of the text, raw or not, and the rest of the text. -/
def name? (cs : List Char) : Option (String × List Char) := do
  let raw := startsWith "r#" cs
  let rest ← afterWord (if raw then cs.drop 2 else cs)
  let text := String.ofList (cs.take (cs.length - rest.length))
  if raw && ["r#_", "r#super", "r#self", "r#Self", "r#crate"].contains text then none else some (text, rest)

/-- What looks like a name but is the front of a literal. -/
def literalFronts : List String :=
  ["r\"", "r#\"", "r##", "b\"", "b'", "br\"", "br#", "c\"", "cr\"", "cr#"]

/-- A name at the front of the text that begins no literal. -/
def ident? (cs : List Char) : Option (String × List Char) :=
  if literalFronts.any (startsWith · cs) then none else name? cs

/-- A lifetime after its quote: a name that no quote follows, nor a hash mark. -/
def lifetime? (cs : List Char) : Option (String × List Char) := do
  let (_, rest) ← name? cs
  if startsWith "'" rest || (startsWith "#" rest && !startsWith "r#" cs) then none else ident? cs

/-- The literal that stands for one that could not be read. -/
def brokenLiteral : String := "(/*ERROR*/)"

/-- The rest of the text after a literal of any kind. -/
def afterAnyLiteral (cs : List Char) : Option (List Char) :=
  if startsWith brokenLiteral cs then some (cs.drop brokenLiteral.length) else afterLiteral cs

/-- One token at the front of the text that is no bracket, and the rest of the text. -/
def leaf? (cs : List Char) : Option (Token × List Char) :=
  match afterAnyLiteral cs with
  | some rest => some (.literal (String.ofList (cs.take (cs.length - rest.length))), rest)
  | none =>
    match cs with
    | [] => none
    | c :: rest =>
      if startsPunct cs then
        if c == '\x27' then (lifetime? rest).map fun (name, rest) => (.lifetime name, rest)
        else some (.punct c (startsPunct rest), rest)
      else (ident? cs).map fun (text, rest) => (.ident text, rest)

/-- The bracket that the text opens. -/
def opened? (cs : List Char) : Option Delimiter :=
  if startsWith brokenLiteral cs then none
  else [Delimiter.paren, .bracket, .brace].find? fun d => cs.head? == some d.opening

/-- The character is a closing bracket. -/
def isClosing (c : Char) : Bool :=
  [Delimiter.paren, .bracket, .brace].any (·.closing == c)

/-- The trees at the front of the text up to its end or a closing bracket, and the rest of the text; `fuel` bounds
the characters read. -/
def treesUpTo : Nat → List Char → Option (List Tree × List Char)
  | 0, _ => none
  | fuel + 1, cs =>
    match skipBlank cs with
    | [] => some ([], [])
    | c :: rest =>
      match documentation? (c :: rest) with
      | some (trees, rest) => do
        let (more, rest) ← treesUpTo fuel rest
        some (trees ++ more, rest)
      | none =>
        if isClosing c then some ([], c :: rest)
        else match opened? (c :: rest) with
          | some d => do
            let (inner, rest) ← treesUpTo fuel rest
            match rest with
            | e :: rest =>
              if e == d.closing then do
                let (more, rest) ← treesUpTo fuel rest
                some (.group d inner :: more, rest)
              else none
            | [] => none
          | none => do
            let (token, rest) ← leaf? (c :: rest)
            let (more, rest) ← treesUpTo fuel rest
            some (.token token :: more, rest)

/-- The token trees of the characters. -/
def treesOf? (cs : List Char) : Option (List Tree) := do
  let (trees, rest) ← treesUpTo (cs.length + 1) cs
  if rest.isEmpty then some trees else none

/-- The text without a byte order mark at its front. -/
def skipMark : List Char → List Char
  | '\ufeff' :: rest => rest
  | cs => cs

/-- The token trees of a text, if every token is well formed and every bracket is matched. -/
def trees? (text : String) : Option (List Tree) := treesOf? (skipMark text.toList)

end ServiceContainer.Syntax
