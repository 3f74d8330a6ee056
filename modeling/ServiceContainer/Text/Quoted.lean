import ServiceContainer.Text.CharClass
import ServiceContainer.Text.Table.Unpictured

/-!
# Quoted texts

A text becomes a string literal by escaping: the usual letters for the usual control characters, and a number for
every other character without a picture of its own.

## Main definitions

* `hexDigits` — a number in lower-case hexadecimal digits
* `escapeChar` — one character inside a literal
* `quoted` — the literal of a text
-/

namespace ServiceContainer.Text

/-- The number in lower-case hexadecimal digits. -/
def hexDigits (n : Nat) : List Char := Nat.toDigits 16 n

/-- The character has no picture of its own. -/
def isUnpictured (c : Char) : Bool :=
  if isAscii c then c.toNat < 0x20 || c.toNat == 0x7F else inRanges Table.unpictured c

/-- A character inside a literal, given the character after it: a zero is `\0` unless an octal digit follows. -/
def escapeChar (c : Char) (next : Option Char) : List Char :=
  if c.toNat == 0 then
    if next.any fun d => '0' ≤ d && d ≤ '7' then "\\x00".toList else "\\0".toList
  else if c == '\t' then "\\t".toList
  else if c == '\r' then "\\r".toList
  else if c == '\n' then "\\n".toList
  else if c == '\\' then "\\\\".toList
  else if c.toNat == 0x22 then "\\\"".toList
  else if isUnpictured c then "\\u\x7b".toList ++ hexDigits c.toNat ++ "\x7d".toList
  else [c]

/-- The characters of a text inside a literal. -/
def escapeAll : List Char → List Char
  | [] => []
  | c :: rest => escapeChar c rest.head? ++ escapeAll rest

/-- The string literal of a text. -/
def quoted (text : List Char) : String :=
  String.ofList ('\x22' :: (escapeAll text ++ ['\x22']))

end ServiceContainer.Text
