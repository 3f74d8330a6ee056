import ServiceContainer.Text.Table.Identifier
import ServiceContainer.Text.Table.Alphanumeric
import ServiceContainer.Text.Table.Casing

/-!
# Character classes

The classes of characters that names and displayed types depend on. In ASCII they are the familiar ones;
beyond it they are Unicode properties, read from the tables in `ServiceContainer.Text.Table`.

## Main definitions

* `isIdentifierStart`, `isIdentifierContinue` — the characters of identifiers
* `isAlphanumeric`, `isWordChar` — letters and numbers, and with them the underscore
* `isUpperCase`, `isLowerCase` — letters of one case
* `isWhiteSpace`, `isBlank` — white space, and with it the two direction marks
-/

namespace ServiceContainer.Text

/-- The character is one of the first 128. -/
def isAscii (c : Char) : Bool := c.toNat < 128

/-- The underscore, and characters with the property `XID_Start`. -/
def isIdentifierStart (c : Char) : Bool :=
  if isAscii c then c.isAlpha || c == '_' else inRanges Table.identifierStart c

/-- Characters with the property `XID_Continue`. -/
def isIdentifierContinue (c : Char) : Bool :=
  if isAscii c then c.isAlphanum || c == '_'
  else inRanges Table.identifierStart c || inRanges Table.identifierExtend c

/-- Letters and numbers: the property `Alphabetic` and the category `Number`. -/
def isAlphanumeric (c : Char) : Bool :=
  if isAscii c then c.isAlphanum else inRanges Table.alphabetic c || inRanges Table.number c

/-- Letters, numbers and the underscore. -/
def isWordChar (c : Char) : Bool := isAlphanumeric c || c == '_'

/-- Characters with the property `Uppercase`. -/
def isUpperCase (c : Char) : Bool :=
  if isAscii c then c.isUpper else inRanges Table.uppercase c

/-- Characters with the property `Lowercase`. -/
def isLowerCase (c : Char) : Bool :=
  if isAscii c then c.isLower else inRanges Table.lowercase c

/-- Characters with the property `Cased`. -/
def isCased (c : Char) : Bool :=
  if isAscii c then c.isAlpha else inRanges Table.cased c

/-- Characters with the property `Case_Ignorable`. -/
def isCaseIgnorable (c : Char) : Bool := inRanges Table.caseIgnorable c

/-- The ranges of the property `White_Space`. -/
def whiteSpace : List CharRange :=
  [⟨0x09, 0x0D, 1⟩, ⟨0x20, 0x20, 1⟩, ⟨0x85, 0x85, 1⟩, ⟨0xA0, 0xA0, 1⟩, ⟨0x1680, 0x1680, 1⟩,
   ⟨0x2000, 0x200A, 1⟩, ⟨0x2028, 0x2029, 1⟩, ⟨0x202F, 0x202F, 1⟩, ⟨0x205F, 0x205F, 1⟩,
   ⟨0x3000, 0x3000, 1⟩]

/-- Characters with the property `White_Space`. -/
def isWhiteSpace (c : Char) : Bool := inRanges whiteSpace c

/-- White space between tokens: the property `White_Space` and the two direction marks. -/
def isBlank (c : Char) : Bool := isWhiteSpace c || c == '\u200e' || c == '\u200f'

theorem isWhiteSpace_of_isWhitespace {c : Char} (h : c.isWhitespace = true) : isWhiteSpace c = true := by
  simp only [Char.isWhitespace, Bool.or_eq_true, decide_eq_true_eq] at h
  rcases h with ((rfl | rfl) | rfl) | rfl <;> decide

/-- The text without the white space at its end. -/
def trimEnd (cs : List Char) : List Char := (cs.reverse.dropWhile isWhiteSpace).reverse

end ServiceContainer.Text
