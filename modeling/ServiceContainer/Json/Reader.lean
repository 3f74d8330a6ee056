import ServiceContainer.Document
import ServiceContainer.Text.CharClass

/-!
# Reading JSON

A text is read as far as it follows the format. Where it stops following it, the document breaks off.

## Main definitions

* `Json.string?`, `Json.number?` — single values
* `Json.value` — a value and the rest of the text
* `Json.read` — a document, and whether nothing but white space follows it
-/

namespace ServiceContainer.Json

open Number

/-- White space between values. -/
def isSpace (c : Char) : Bool := c == ' ' || c == '\n' || c == '\t' || c == '\r'

/-- The text without white space at its front. -/
def skipSpace (cs : List Char) : List Char := cs.dropWhile isSpace

/-! ### Strings -/

/-- The value of a hexadecimal digit. -/
def hexValue? (c : Char) : Option Nat :=
  if '0' ≤ c && c ≤ '9' then some (c.toNat - 48)
  else if 'a' ≤ c && c ≤ 'f' then some (c.toNat - 87)
  else if 'A' ≤ c && c ≤ 'F' then some (c.toNat - 55)
  else none

/-- The number of four hexadecimal digits. -/
def unit? : List Char → Option (Nat × List Char)
  | a :: b :: c :: d :: rest => do
    some ((← hexValue? a) * 4096 + (← hexValue? b) * 256 + (← hexValue? c) * 16 + (← hexValue? d), rest)
  | _ => none

/-- A character given by number, in one unit or in a pair of surrogates. A surrogate alone is no character. -/
def numbered? (cs : List Char) : Option (Option Char × List Char) := do
  let (high, rest) ← unit? cs
  if 0xDC00 ≤ high && high < 0xE000 then some (none, rest)
  else if 0xD800 ≤ high && high < 0xDC00 then
    match lowSurrogate? rest with
    | some (low, rest) => some (Char.ofNat (0x10000 + (high - 0xD800) * 0x400 + (low - 0xDC00)), rest)
    | none => some (none, rest)
  else some (Char.ofNat high, rest)
where
  /-- The second unit of a pair. -/
  lowSurrogate? : List Char → Option (Nat × List Char)
    | '\\' :: 'u' :: rest => (unit? rest).filter fun (low, _) => 0xDC00 ≤ low && low < 0xE000
    | _ => none

/-- The character that a letter after a backslash stands for. -/
def escaped? (c : Char) : Option Char :=
  if c == '\x22' || c == '\\' || c == '/' then some c
  else if c == 'b' then some '\x08'
  else if c == 'f' then some '\x0c'
  else if c == 'n' then some '\n'
  else if c == 'r' then some '\r'
  else if c == 't' then some '\t'
  else none

/-- The characters up to the closing quote, unless one of them is none, and the rest of the text; `fuel` bounds the
characters read. -/
def stringUpTo : Nat → List Char → Option (Option (List Char) × List Char)
  | 0, _ => none
  | _, [] => none
  | fuel + 1, c :: rest =>
    if c == '\x22' then some (some [], rest)
    else if c == '\\' then
      match rest with
      | 'u' :: rest => do
        let (x, rest) ← numbered? rest
        let (xs, rest) ← stringUpTo fuel rest
        some (do return (← x) :: (← xs), rest)
      | e :: rest => do
        let x ← escaped? e
        let (xs, rest) ← stringUpTo fuel rest
        some (xs.map (x :: ·), rest)
      | [] => none
    else if c.toNat < 0x20 then none
    else do
      let (xs, rest) ← stringUpTo fuel rest
      some (xs.map (c :: ·), rest)

/-- A string after its opening quote, unless one of its characters is none, and the rest of the text. -/
def anyString? (cs : List Char) : Option (Option String × List Char) :=
  (stringUpTo (cs.length + 1) cs).map fun (xs, rest) => (xs.map String.ofList, rest)

/-- A string after its opening quote, and the rest of the text. -/
def string? (cs : List Char) : Option (String × List Char) := do
  let (s, rest) ← anyString? cs
  some (← s, rest)

/-! ### Numbers -/

/-- The number of some digits. -/
def digitsValue (cs : List Char) : Nat := cs.foldl (fun n c => n * 10 + (c.toNat - 48)) 0

/-- The digits at the front of the text, at least one, and the rest of the text. -/
def digits? (cs : List Char) : Option (List Char × List Char) :=
  match cs.takeWhile Char.isDigit with
  | [] => none
  | ds => some (ds, cs.dropWhile Char.isDigit)

/-- The digits before the point: a zero alone, or digits without a zero in front. -/
def wholePart? (cs : List Char) : Option (List Char × List Char) :=
  match cs with
  | '0' :: c :: rest => if c.isDigit then none else some (['0'], c :: rest)
  | _ => digits? cs

/-- The digits after a point, which may be absent. -/
def fractionPart? : List Char → Option (List Char × List Char)
  | '.' :: rest => digits? rest
  | cs => some ([], cs)

/-- The exponent, which may be absent. -/
def exponentPart? : List Char → Option (Option Int × List Char)
  | c :: rest =>
    if c == 'e' || c == 'E' then
      let (negative, rest) := match rest with
        | '-' :: rest => (true, rest)
        | '+' :: rest => (false, rest)
        | _ => (false, rest)
      (digits? rest).map fun (ds, rest) =>
        let n : Int := digitsValue ds
        (some (if negative then -n else n), rest)
    else some (none, c :: rest)
  | [] => some (none, [])

/-- A number with further digits as far as it keeps within 64 bits, and the digits that are left. -/
def withDigits (n : Nat) : List Char → Nat × List Char
  | [] => (n, [])
  | c :: rest =>
    let more := n * 10 + (c.toNat - 48)
    if more < Nat.pow 2 64 then withDigits more rest else (n, c :: rest)

/-- A sum of powers of ten of 32 bits, the nearest one if it takes more. -/
def clampPower (n : Int) : Int := max (-0x80000000) (min n 0x7fffffff)

/-- A binary number, of which the digits that keep within 64 bits count, or the mark of one that is too large. An
exponent of more than 32 bits makes a number too large or zero. -/
def numeral (negative : Bool) (digits fraction : List Char) (exponent : Option Int) : Document :=
  let (n, beyond) := withDigits 0 digits
  let (n, unread) := withDigits n fraction
  let power : Int := beyond.length - (fraction.length - unread.length : Nat)
  let exponent := exponent.getD 0
  if exponent ≥ 0x80000000 && n != 0 then .excess
  else
    let n := if exponent.natAbs ≥ 0x80000000 then 0 else n
    match Binary64.stepwise? negative n (clampPower (power + exponent)) with
    | some x => .decimal x
    | none => .excess

/-- The value of a number by its parts: an integer where it is written as one that takes at most 64 bits, unless it is a
zero with a sign; else a binary number. -/
def numberValue (negative : Bool) (digits fraction : List Char) (exponent : Option Int) : Document :=
  let n := digitsValue digits
  let fits := if negative then n != 0 && n ≤ Nat.pow 2 63 else n < Nat.pow 2 64
  if fraction.isEmpty && exponent.isNone && fits then .integer (if negative then -n else n)
  else numeral negative digits fraction exponent

/-- A number after its sign. -/
def unsigned? (negative : Bool) (cs : List Char) : Option (Document × List Char) := do
  let (digits, rest) ← wholePart? cs
  let (fraction, rest) ← fractionPart? rest
  let (exponent, rest) ← exponentPart? rest
  some (numberValue negative digits fraction exponent, rest)

/-- A number. -/
def number? (cs : List Char) : Option (Document × List Char) :=
  match cs with
  | '-' :: rest => unsigned? true rest
  | _ => unsigned? false cs

/-! ### Values -/

/-- The rest of the text after a word. -/
def afterWord? (word : String) (cs : List Char) : Option (List Char) :=
  if word.toList.isPrefixOf cs then some (cs.drop word.toList.length) else none

/-- How the fields of a table end: with its bracket, with its bracket after half a character in a name, or where the
text breaks off. -/
inductive TableEnd where
  | whole | garbled | cut
  deriving DecidableEq, Repr

/-- A table of fields by their end. -/
def TableEnd.table (fields : List (String × Document)) : TableEnd → Document
  | .whole => .table fields true
  | .garbled => .garbled fields
  | .cut => .table fields false

/-- A value that is a single token. -/
def scalar? (cs : List Char) : Option (Document × List Char) :=
  match cs with
  | '\x22' :: rest => (anyString? rest).map fun (s, rest) => ((s.map .text).getD .excess, rest)
  | 't' :: _ => (afterWord? "true" cs).map (.boolean true, ·)
  | 'f' :: _ => (afterWord? "false" cs).map (.boolean false, ·)
  | 'n' :: _ => (afterWord? "null" cs).map (.null, ·)
  | _ => number? cs

mutual

/-- A value and the rest of the text, which is none where the document breaks off; `fuel` bounds the characters
read. -/
def value : Nat → List Char → Document × Option (List Char)
  | 0, _ => (.broken, none)
  | fuel + 1, cs =>
    match skipSpace cs with
    | '[' :: rest =>
      match skipSpace rest with
      | ']' :: rest => (.array [] true, some rest)
      | rest =>
        let (xs, whole, rest) := items fuel rest
        (.array xs whole, rest)
    | '\x7b' :: rest =>
      match skipSpace rest with
      | '\x7d' :: rest => (.table [] true, some rest)
      | rest =>
        let (xs, ending, rest) := fields fuel rest
        (ending.table xs, rest)
    | cs =>
      match scalar? cs with
      | some (x, rest) => (x, some rest)
      | none => (.broken, none)

/-- The items of a list up to its end. -/
def items : Nat → List Char → List Document × Bool × Option (List Char)
  | 0, _ => ([], false, none)
  | fuel + 1, cs =>
    match skipSpace cs with
    | [] => ([], false, none)
    | ']' :: _ => ([], false, none)
    | cs =>
      match value fuel cs with
      | (x, none) => ([x], false, none)
      | (x, some rest) =>
        match skipSpace rest with
        | ',' :: rest =>
          let (xs, whole, rest) := items fuel rest
          (x :: xs, whole, rest)
        | ']' :: rest => ([x], true, some rest)
        | _ => ([x], false, none)

/-- The fields of a table up to its end. A field that breaks off after its name has no value. -/
def fields : Nat → List Char → List (String × Document) × TableEnd × Option (List Char)
  | 0, _ => ([], .cut, none)
  | fuel + 1, cs =>
    match skipSpace cs with
    | '\x22' :: rest =>
      match anyString? rest with
      | none => ([], .cut, none)
      | some (some name, rest) => field fuel name rest
      | some (none, rest) =>
        match field fuel "" rest with
        | (_, _, some rest) => ([], .garbled, some rest)
        | (_, _, none) => ([], .cut, none)
    | _ => ([], .cut, none)

/-- A field after its name, and the fields after it up to the end of the table. -/
def field : Nat → String → List Char → List (String × Document) × TableEnd × Option (List Char)
  | 0, name, _ => ([(name, .broken)], .cut, none)
  | fuel + 1, name, cs =>
    match skipSpace cs with
    | ':' :: rest =>
      match value fuel rest with
      | (x, none) => ([(name, x)], .cut, none)
      | (x, some rest) =>
        match skipSpace rest with
        | ',' :: rest =>
          let (xs, ending, rest) := fields fuel rest
          ((name, x) :: xs, ending, rest)
        | '\x7d' :: rest => ([(name, x)], .whole, some rest)
        | _ => ([(name, x)], .cut, none)
    | _ => ([(name, .broken)], .cut, none)

end

/-- The document of a text, and whether the text ends after it. -/
def read (text : String) : Document × Bool :=
  let cs := text.toList
  match value (cs.length + 1) cs with
  | (d, some rest) => (d, (skipSpace rest).isEmpty)
  | (d, none) => (d, false)

end ServiceContainer.Json
