import ServiceContainer.Syntax.Lexer
import ServiceContainer.Syntax.Grammar.Items

/-!
# Reading texts

The parts of the grammar are tied together: each level of nesting is read with the grammar of the level below. A
text with few tokens cannot be nested deeply, so a level that depends on the number of tokens is enough for it.

## Main definitions

* `Grammar.step`, `Grammar.upTo`, `Grammar.forTrees` — the grammar of a level of nesting
* `readType?`, `readPath?`, `readIdent?`, `readItems?`, `readModule?` — texts
-/

namespace ServiceContainer.Syntax

open ServiceContainer.Syntax.Parser

/-- The grammar of the next level of nesting. -/
def Grammar.step (g : Grammar) : Grammar where
  type := g.typeOf
  segment := g.segmentOf
  binder := g.binderOf
  expr := g.exprOf
  unary := g.unaryOf
  binary := g.binaryOf
  statementExpr := g.statementExprOf
  pattern := g.patternOf
  statements := g.statementsOf
  fields := g.namedFields
  imports := g.importsOf
  item := g.itemOf

/-- The grammar up to a level of nesting. -/
def Grammar.upTo : Nat → Grammar
  | 0 => .empty
  | n + 1 => (Grammar.upTo n).step

/-- The grammar up to the deepest nesting that the trees can have: no parser calls for a part of the grammar more
than eight times without reading a token. -/
def Grammar.forTrees (trees : List Tree) : Grammar := .upTo (8 * (size trees + 2))

/-- Reads all of the trees with a part of the grammar. -/
def readTrees? (p : Grammar → Parser α) (trees : List Tree) : Option α :=
  onAll (p (.forTrees trees)) trees

/-- Reads all of a text with a part of the grammar. -/
def read? (p : Grammar → Parser α) (text : String) : Option α := (trees? text).bind (readTrees? p)

/-- The type that a text is. -/
def readType? (text : String) : Option Tree := read? (·.type true) text

/-- The path that a text is. -/
def readPath? (text : String) : Option (List Tree) := read? (·.path false) text

/-- The identifier that a text is. -/
def readIdent? (text : String) : Option String := read? (fun _ => name) text

/-- The text without a first line that names an interpreter, which an attribute is not. -/
def skipInterpreter (cs : List Char) : List Char :=
  if startsWith "#!" cs && (skipBlank (cs.drop 2)).head? != some '[' then cs.dropWhile (· != '\n') else cs

/-- The items of a file: attributes of the file come first and are no items. -/
def fileItems (g : Grammar) : Parser (List Item) := do
  let _ ← g.innerAttributes
  untilEnd g.item

/-- The items of the text of a file. -/
def readItems? (text : String) : Option (List Item) :=
  (treesOf? (skipMark (skipInterpreter (skipMark text.toList)))).bind (readTrees? fileItems)

/-- The module that the trees are. -/
def readModule? (trees : List Tree) : Option ModuleItem := readTrees? (·.moduleItem) trees

end ServiceContainer.Syntax
