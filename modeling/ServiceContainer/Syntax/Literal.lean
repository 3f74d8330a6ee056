import ServiceContainer.Text.CharClass

/-!
# Literals

How far a literal reaches at the front of a text. Every function here answers with the rest of the text after what
it reads, or with nothing when the text does not begin that way. The text of a literal is kept as written.

## Main definitions

* `afterWord` — after a name
* `afterString`, `afterChar`, `afterFloat`, `afterInteger` — after the kinds of literals
* `afterLiteral` — after any literal
-/

namespace ServiceContainer.Syntax

open ServiceContainer.Text

/-- The rest of the text after a name. -/
def afterWord : List Char → Option (List Char)
  | [] => none
  | c :: rest => if isIdentifierStart c then some (rest.dropWhile isIdentifierContinue) else none

/-- The rest of the text after the suffix of a literal, which may be empty. -/
def afterSuffix (cs : List Char) : List Char := (afterWord cs).getD cs

/-- What a string holds: characters, bytes, or characters other than zero. -/
inductive StringKind where
  | text | bytes | zeroFree
  deriving DecidableEq, Repr

/-- The character may stand unescaped in a string. -/
def StringKind.admits : StringKind → Char → Bool
  | .text, _ => true
  | .bytes, c => isAscii c
  | .zeroFree, c => c.toNat != 0

/-- The value of a hexadecimal digit. -/
def hexValue? (c : Char) : Option Nat :=
  if '0' ≤ c && c ≤ '9' then some (c.toNat - 48)
  else if 'a' ≤ c && c ≤ 'f' then some (c.toNat - 87)
  else if 'A' ≤ c && c ≤ 'F' then some (c.toNat - 55)
  else none

/-- The number is a code point of a character. -/
def isScalar (n : Nat) : Bool := n < 0xD800 || (0xE000 ≤ n && n < 0x110000)

/-- The digits of a numeric escape up to its closing brace: at most six, with underscores after the first. The
answer is the number and the rest of the text. -/
def escapeDigits (count value : Nat) : List Char → Option (Nat × List Char)
  | [] => none
  | c :: rest =>
    match hexValue? c with
    | some d => if count = 6 then none else escapeDigits (count + 1) (value * 16 + d) rest
    | none =>
      if count = 0 then none
      else if c == '_' then escapeDigits count value rest
      else if c == '\x7d' && isScalar value then some (value, rest)
      else none

/-- The rest of the text after an escape, whose backslash is gone. -/
def afterEscape (kind : StringKind) : List Char → Option (List Char)
  | 'x' :: a :: b :: rest => do
    let high ← hexValue? a
    let low ← hexValue? b
    match kind with
    | .text => if high < 8 then some rest else none
    | .bytes => some rest
    | .zeroFree => if high + low = 0 then none else some rest
  | 'u' :: '\x7b' :: rest => do
    let (value, rest) ← escapeDigits 0 0 rest
    match kind with
    | .text => some rest
    | .bytes => none
    | .zeroFree => if value = 0 then none else some rest
  | '0' :: rest => if kind = .zeroFree then none else some rest
  | c :: rest => if c ∈ ['n', 'r', 't', '\\', '\x27', '\x22'] then some rest else none
  | [] => none

/-- The rest of the text after the white space that a backslash at the end of a line skips. A carriage return
counts only before a line feed, and the text may not end there. -/
def afterGap : List Char → Option (List Char)
  | '\r' :: '\n' :: rest => afterGap rest
  | '\r' :: _ => none
  | ' ' :: rest => afterGap rest
  | '\t' :: rest => afterGap rest
  | '\n' :: rest => afterGap rest
  | [] => none
  | rest => some rest

/-- The rest of the text after the closing quote of a string; `fuel` bounds the characters read. -/
def afterQuote (kind : StringKind) : Nat → List Char → Option (List Char)
  | 0, _ => none
  | _, [] => none
  | fuel + 1, c :: rest =>
    if c == '\x22' then some (afterSuffix rest)
    else if c == '\r' then
      match rest with
      | '\n' :: rest => afterQuote kind fuel rest
      | _ => none
    else if c == '\\' then
      match rest with
      | '\n' :: _ => (afterGap rest).bind (afterQuote kind fuel)
      | '\r' :: _ => (afterGap rest).bind (afterQuote kind fuel)
      | _ => (afterEscape kind rest).bind (afterQuote kind fuel)
    else if kind.admits c then afterQuote kind fuel rest
    else none

/-- The rest of the text after a raw string that `hashes` hash marks end. -/
def afterRawQuote (kind : StringKind) (hashes : List Char) : List Char → Option (List Char)
  | [] => none
  | c :: rest =>
    if c == '\x22' && hashes.isPrefixOf rest then some (afterSuffix (rest.drop hashes.length))
    else if c == '\r' then
      match rest with
      | '\n' :: rest => afterRawQuote kind hashes rest
      | _ => none
    else if kind.admits c then afterRawQuote kind hashes rest
    else none

/-- The rest of the text after a raw string without its letter: at most 255 hash marks, then a quote. -/
def afterRaw (kind : StringKind) (cs : List Char) : Option (List Char) :=
  let hashes := cs.takeWhile (· == '#')
  match cs.dropWhile (· == '#') with
  | c :: rest => if c == '\x22' && hashes.length ≤ 255 then afterRawQuote kind hashes rest else none
  | [] => none

/-- The rest of the text after a string of any kind. -/
def afterString (cs : List Char) : Option (List Char) :=
  match cs with
  | '\x22' :: rest => afterQuote .text (rest.length + 1) rest
  | 'r' :: rest => afterRaw .text rest
  | 'b' :: '\x22' :: rest => afterQuote .bytes (rest.length + 1) rest
  | 'b' :: 'r' :: rest => afterRaw .bytes rest
  | 'c' :: '\x22' :: rest => afterQuote .zeroFree (rest.length + 1) rest
  | 'c' :: 'r' :: rest => afterRaw .zeroFree rest
  | _ => none

/-- The rest of the text after one character or byte and its closing quote. -/
def afterCharBody (kind : StringKind) (cs : List Char) : Option (List Char) := do
  let rest ← match cs with
    | '\\' :: rest => afterEscape kind rest
    | c :: rest => if kind.admits c then some rest else none
    | [] => none
  match rest with
  | '\x27' :: rest => some (afterSuffix rest)
  | _ => none

/-- The rest of the text after a character or a byte. -/
def afterChar : List Char → Option (List Char)
  | 'b' :: '\x27' :: rest => afterCharBody .bytes rest
  | '\x27' :: rest => afterCharBody .text rest
  | _ => none

/-- The rest of the text after the end of a number, which is not in the middle of a word. -/
def afterNumber (cs : List Char) : Option (List Char) :=
  let rest := afterSuffix cs
  match rest with
  | c :: _ => if isIdentifierContinue c then none else some rest
  | [] => some rest

/-- The digits of an exponent after its letter; without a digit, or with a second sign, the exponent is none and
the text is given back at `otherwise`. -/
def afterExponent (otherwise : Option (List Char)) (signed valued : Bool) : List Char → Option (List Char)
  | [] => if valued then some [] else otherwise
  | c :: rest =>
    if c == '+' || c == '-' then
      if valued then some (c :: rest)
      else if signed then otherwise
      else afterExponent otherwise true valued rest
    else if c.isDigit then afterExponent otherwise signed true rest
    else if c == '_' then afterExponent otherwise signed valued rest
    else if valued then some (c :: rest)
    else otherwise

/-- The digits of a number with a point or an exponent. A point that a second point or a name follows belongs to no
number. -/
def afterFloatDigits (pointed : Bool) : List Char → Option (List Char)
  | [] => if pointed then some [] else none
  | c :: rest =>
    if c.isDigit || c == '_' then afterFloatDigits pointed rest
    else if c == '.' then
      if pointed then some (c :: rest)
      else if rest.head?.any fun d => d == '.' || isIdentifierStart d then none
      else afterFloatDigits true rest
    else if c == 'e' || c == 'E' then
      afterExponent (if pointed then some (c :: rest) else none) false false rest
    else if pointed then some (c :: rest)
    else none

/-- The rest of the text after a number with a point or an exponent. -/
def afterFloat (cs : List Char) : Option (List Char) :=
  if cs.head?.any Char.isDigit then (afterFloatDigits false cs).bind afterNumber else none

/-- The digits of an integer to a base. A letter that is no digit ends the number, a digit too large spoils it. -/
def afterDigits (base : Nat) (empty : Bool) : List Char → Option (List Char)
  | [] => if empty then none else some []
  | c :: rest =>
    if c == '_' then if empty && base == 10 then none else afterDigits base empty rest
    else match hexValue? c with
      | some d =>
        if d < base then afterDigits base false rest
        else if c.isDigit then none
        else if empty then none
        else some (c :: rest)
      | none => if empty then none else some (c :: rest)

/-- The rest of the text after an integer. -/
def afterInteger (cs : List Char) : Option (List Char) :=
  let digits := match cs with
    | '0' :: 'x' :: rest => afterDigits 16 true rest
    | '0' :: 'o' :: rest => afterDigits 8 true rest
    | '0' :: 'b' :: rest => afterDigits 2 true rest
    | _ => afterDigits 10 true cs
  digits.bind afterNumber

/-- The rest of the text after a literal. -/
def afterLiteral (cs : List Char) : Option (List Char) :=
  afterString cs <|> afterChar cs <|> afterFloat cs <|> afterInteger cs

end ServiceContainer.Syntax
