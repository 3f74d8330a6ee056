import ServiceContainer.Text.LowerCase

/-!
# Snake case

A name in camel case is written in snake case by lowering its characters and putting an underscore before each
capital that begins a word: one after a lower-case letter or a digit, or one that a lower-case letter follows
(the last capital of an acronym).

## Main definitions

* `beginsWord` — whether a capital begins a word between its neighbours
* `snakeCase` — the name in snake case
-/

namespace ServiceContainer.Text

/-- A capital begins a word when its left neighbour is a lower-case letter or a digit, or its right neighbour is
a lower-case letter, and no underscore stands before it; the first character of a name begins no word. -/
def beginsWord (before : Option Char) (c : Char) (after : Option Char) : Bool :=
  match before with
  | none => false
  | some p =>
    isUpperCase c && (isLowerCase p || (p.isDigit || after.any isLowerCase)) && p != '_'

/-- Snake case of the rest of a name after the character `before`. -/
def snakeAfter (before : Option Char) : List Char → List Char
  | [] => []
  | c :: rest =>
    (if beginsWord before c rest.head? then ['_'] else [])
      ++ (lowerChar c ++ snakeAfter (some c) rest)

/-- The name in snake case. -/
def snakeCase (name : String) : String := String.ofList (snakeAfter none name.toList)

end ServiceContainer.Text
