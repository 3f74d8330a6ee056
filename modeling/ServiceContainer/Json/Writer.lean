import ServiceContainer.Document

/-!
# Writing JSON

## Main definitions

* `Json.stringText` — the literal of a string
* `Json.compact`, `Json.pretty` — the text of a document, on one line or indented
-/

namespace ServiceContainer.Json

/-- The digits of a number below 256. -/
def byteDigits (n : Nat) : List Char := [Nat.digitChar (n / 16), Nat.digitChar (n % 16)]

/-- A character inside a string: only quotes, backslashes and control characters are escaped. -/
def escapeChar (c : Char) : List Char :=
  if c == '\x22' then ['\\', '\x22']
  else if c == '\\' then ['\\', '\\']
  else if c == '\x08' then ['\\', 'b']
  else if c == '\x0c' then ['\\', 'f']
  else if c == '\n' then ['\\', 'n']
  else if c == '\r' then ['\\', 'r']
  else if c == '\t' then ['\\', 't']
  else if c.toNat < 0x20 then ['\\', 'u', '0', '0'] ++ byteDigits c.toNat
  else [c]

/-- The literal of a string. -/
def stringChars (s : String) : List Char := '\x22' :: (s.toList.flatMap escapeChar ++ ['\x22'])

/-- The text of a value that is a single token. -/
def scalarChars : Document → List Char
  | .null => "null".toList
  | .boolean b => (if b then "true" else "false").toList
  | .integer n => (toString n).toList
  | .decimal x => x.positional.toList
  | .text s => stringChars s
  | .moment s => stringChars s
  | .array _ _ | .table _ _ | .garbled _ | .excess | .broken => "null".toList

mutual

/-- The text of a document on one line. -/
def compactChars : Document → List Char
  | .array items _ => '[' :: (compactItems items ++ [']'])
  | .table fields _ => '\x7b' :: (compactFields fields ++ ['\x7d'])
  | d => scalarChars d

/-- Items with commas between them. -/
def compactItems : List Document → List Char
  | [] => []
  | [d] => compactChars d
  | d :: rest => compactChars d ++ ',' :: compactItems rest

/-- Fields with commas between them. -/
def compactFields : List (String × Document) → List Char
  | [] => []
  | [(name, d)] => stringChars name ++ ':' :: compactChars d
  | (name, d) :: rest => stringChars name ++ ':' :: (compactChars d ++ ',' :: compactFields rest)

end

/-- A new line at a depth of nesting. -/
def newLine (depth : Nat) : List Char := '\n' :: List.replicate (2 * depth) ' '

mutual

/-- The text of a document with every item and field on a line of its own. -/
def prettyChars (depth : Nat) : Document → List Char
  | .array items _ =>
    if items.isEmpty then ['[', ']'] else '[' :: (prettyItems (depth + 1) items ++ newLine depth ++ [']'])
  | .table fields _ =>
    if fields.isEmpty then ['\x7b', '\x7d']
    else '\x7b' :: (prettyFields (depth + 1) fields ++ newLine depth ++ ['\x7d'])
  | d => scalarChars d

/-- Items on lines of their own. -/
def prettyItems (depth : Nat) : List Document → List Char
  | [] => []
  | [d] => newLine depth ++ prettyChars depth d
  | d :: rest => newLine depth ++ prettyChars depth d ++ ',' :: prettyItems depth rest

/-- Fields on lines of their own. -/
def prettyFields (depth : Nat) : List (String × Document) → List Char
  | [] => []
  | [(name, d)] => newLine depth ++ stringChars name ++ ':' :: ' ' :: prettyChars depth d
  | (name, d) :: rest =>
    newLine depth ++ stringChars name ++ ':' :: ' ' :: (prettyChars depth d ++ ',' :: prettyFields depth rest)

end

/-- The text of a document on one line. -/
def compact (d : Document) : String := String.ofList (compactChars d)

/-- The text of a document with every item and field on a line of its own. -/
def pretty (d : Document) : String := String.ofList (prettyChars 0 d)

end ServiceContainer.Json
