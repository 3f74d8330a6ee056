import ServiceContainer.Text.CharClass

/-!
# Compact text

Token text has a space between any two tokens. Its compact form keeps a space only where two word characters
would otherwise run together, and puts one after every comma.

## Main definitions

* `compactAfter` — the compact form of the rest of a text, given the last character written
* `compact` — the compact form of a text, without white space at its end
-/

namespace ServiceContainer.Text

/-- Whether a space between the written character and the next one is kept. -/
def keepsSpace (written next : Option Char) : Bool :=
  written.any isWordChar && next.any isWordChar

/-- The compact form of the rest of a text after the character `written`. -/
def compactAfter (written : Option Char) : List Char → List Char
  | [] => []
  | c :: rest =>
    if c = ' ' then
      if keepsSpace written rest.head? then ' ' :: compactAfter (some ' ') rest
      else compactAfter written rest
    else if c = ',' then ',' :: ' ' :: compactAfter (some ' ') rest
    else c :: compactAfter (some c) rest

/-- The compact form of a text. -/
def compact (text : String) : String :=
  String.ofList (trimEnd (compactAfter none text.toList))

end ServiceContainer.Text
