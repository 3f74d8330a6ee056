import ServiceContainer.Text.CharClass
import ServiceContainer.Text.Table.Lowering

/-!
# Lower case

The lower-case form of a character is a list of characters, because one character (U+0130) has a longer form.
A whole text is lowered character by character, except that a capital sigma at the end of a word becomes the
final sigma.

## Main definitions

* `lowerChar` — the lower-case form of one character
* `lowerText` — the lower-case form of a text, with the rule for the final sigma
-/

namespace ServiceContainer.Text

/-- The lower-case form of a character; a character without case is its own. -/
def lowerChar (c : Char) : List Char :=
  if isAscii c then [c.toLower]
  else if c == '\u0130' then ['i', '\u0307']
  else match Table.lowering.find? (·.range.contains c.toNat) with
    | some run => [Char.ofNat (Int.toNat (c.toNat + run.shift))]
    | none => [c]

/-- The first character that is not case-ignorable has case. -/
def meetsCased (cs : List Char) : Bool :=
  ((cs.dropWhile isCaseIgnorable).head?.map isCased).getD false

/-- Lowers the rest of a text whose part before it is `before`, read backwards: a capital sigma after a letter
and before none becomes the final sigma. -/
def lowerAfter (before : List Char) : List Char → List Char
  | [] => []
  | c :: rest =>
    (if c == 'Σ' then [if meetsCased before && !meetsCased rest then 'ς' else 'σ'] else lowerChar c)
      ++ lowerAfter (c :: before) rest

/-- The lower-case form of a text. -/
def lowerText (cs : List Char) : List Char := lowerAfter [] cs

end ServiceContainer.Text
