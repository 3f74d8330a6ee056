import ServiceContainer.Syntax.Literal

/-!
# Values of literals

## Main definitions

* `stringValue?` — the text that a literal of a string stands for
* `integerValue?` — the number that a literal of an integer stands for
-/

namespace ServiceContainer.Syntax

/-- The character that an escape stands for, whose backslash is gone, and the rest of the text. -/
def escapedChar? : List Char → Option (Char × List Char)
  | 'x' :: a :: b :: rest => do some (Char.ofNat ((← hexValue? a) * 16 + (← hexValue? b)), rest)
  | 'u' :: '\x7b' :: rest => do
    let (value, rest) ← escapeDigits 0 0 rest
    some (Char.ofNat value, rest)
  | 'n' :: rest => some ('\n', rest)
  | 'r' :: rest => some ('\r', rest)
  | 't' :: rest => some ('\t', rest)
  | '0' :: rest => some (Char.ofNat 0, rest)
  | c :: rest => if c ∈ ['\\', '\x27', '\x22'] then some (c, rest) else none
  | [] => none

/-- The character is a blank or ends a line. -/
def isGap (c : Char) : Bool := c == ' ' || c == '\t' || c == '\n' || c == '\r'

/-- The characters up to the closing quote; `fuel` bounds the characters read. A line break is one character, and one
after a backslash is none, with all blanks and line breaks that follow. -/
def quotedChars : Nat → List Char → Option (List Char)
  | 0, _ => none
  | _, [] => none
  | fuel + 1, c :: rest =>
    if c == '\x22' then some []
    else if c == '\r' then (quotedChars fuel (rest.drop 1)).map ('\n' :: ·)
    else if c == '\\' then
      match rest with
      | '\n' :: rest => quotedChars fuel (rest.dropWhile isGap)
      | '\r' :: rest => quotedChars fuel (rest.dropWhile isGap)
      | _ => do
        let (x, rest) ← escapedChar? rest
        (quotedChars fuel rest).map (x :: ·)
    else (quotedChars fuel rest).map (c :: ·)

/-- The characters up to a quote and the hash marks that end a raw string. -/
def rawChars (hashes : List Char) : List Char → List Char
  | [] => []
  | c :: rest => if c == '\x22' && hashes.isPrefixOf rest then [] else c :: rawChars hashes rest

/-- The text that a literal stands for, if it is one of a string of characters. -/
def stringValue? (literal : String) : Option String :=
  match literal.toList with
  | '\x22' :: rest => (quotedChars (rest.length + 1) rest).map String.ofList
  | 'r' :: rest =>
    let hashes := rest.takeWhile (· == '#')
    some (String.ofList (rawChars hashes (rest.drop (hashes.length + 1))))
  | _ => none

/-- The number that digits to a base stand for, with underscores anywhere among them. There has to be a digit. -/
def digitsValue? (base : Nat) (cs : List Char) : Option Nat := do
  let digits ← (cs.filter (· != '_')).mapM hexValue?
  if digits.isEmpty || digits.any (base ≤ ·) then none
  else some (digits.foldl (fun n d => n * base + d) 0)

/-- The number that a literal stands for, if it is an integer without a suffix. -/
def integerValue? (literal : String) : Option Nat :=
  match literal.toList with
  | '0' :: 'x' :: digits => digitsValue? 16 digits
  | '0' :: 'o' :: digits => digitsValue? 8 digits
  | '0' :: 'b' :: digits => digitsValue? 2 digits
  | digits => digitsValue? 10 digits

end ServiceContainer.Syntax
