/-!
# Syntax trees

The concrete syntax of the target language. A text is a list of token trees: single tokens and bracketed groups.
Parsing adds phrases, which mark what a stretch of trees was read as and add no tokens of their own, so that
printing a tree is printing its tokens and rewriting a type inside a larger text is rewriting a phrase.

## Main definitions

* `Token`, `Delimiter`, `Category`, `Tree` — the trees
* `Lexeme`, `lexemes` — the tokens of a tree from left to right, brackets included
* `spacedText` — the text of a tree, with one space between any two tokens that are not glued together
* `separatedText` — the text of a tree with every token on its own
-/

namespace ServiceContainer.Syntax

/-- The brackets of a group. -/
inductive Delimiter where
  | paren | bracket | brace
  deriving DecidableEq, Repr

/-- A token that is no bracket. -/
inductive Token where
  /-- A name or keyword, with its `r#` if it is written raw. -/
  | ident (text : String)
  /-- A lifetime without its quote. -/
  | lifetime (name : String)
  /-- One punctuation character; `joint` when it is glued to the next one. -/
  | punct (mark : Char) (joint : Bool)
  /-- A literal as written. -/
  | literal (text : String)
  deriving DecidableEq, Repr

/-- What a stretch of trees was read as. -/
inductive Category where
  /-- A type that is a path: an optional `::`, then segments with `::` between them. -/
  | typePath
  /-- A type that is a path below a type in angle brackets. -/
  | qualified
  /-- A type of trait bounds, with or without `dyn`. -/
  | object
  /-- A type `impl` followed by bounds. -/
  | implTrait
  /-- A reference type. -/
  | reference
  /-- A raw pointer type. -/
  | pointer
  /-- A type in parentheses. -/
  | parens
  /-- A tuple type. -/
  | tuple
  /-- A slice type. -/
  | slice
  /-- An array type. -/
  | array
  /-- A function pointer type. -/
  | function
  /-- The type `!`. -/
  | never
  /-- The type `_`. -/
  | infer
  /-- A type that is a call of a macro by name. -/
  | invocation
  /-- A type or a bound that is kept as it is written. -/
  | verbatim
  /-- One segment of a path: a name and its arguments. -/
  | segment
  /-- Arguments in angle brackets. -/
  | angle
  /-- Arguments in parentheses with their result. -/
  | call
  /-- A trait among bounds. -/
  | traitBound
  /-- The captured names among bounds. -/
  | capture
  /-- An argument that is a constant. -/
  | constant
  /-- An argument that binds or bounds an associated name. -/
  | binding
  deriving DecidableEq, Repr

/-- The phrase is a type. -/
def Category.isType : Category → Bool
  | .typePath | .qualified | .object | .implTrait | .reference | .pointer | .parens | .tuple | .slice
  | .array | .function | .never | .infer | .invocation | .verbatim => true
  | .segment | .angle | .call | .traitBound | .capture | .constant | .binding => false

/-- A token, a group of trees in brackets, or a phrase. -/
inductive Tree where
  | token (token : Token)
  | group (delimiter : Delimiter) (inner : List Tree)
  | phrase (category : Category) (parts : List Tree)
  deriving Repr

instance : Inhabited Tree := ⟨.phrase .verbatim []⟩

namespace Tree

/-- A name or keyword as a tree. -/
def ident (text : String) : Tree := .token (.ident text)

/-- A lifetime as a tree. -/
def lifetime (name : String) : Tree := .token (.lifetime name)

/-- A literal as a tree. -/
def literal (text : String) : Tree := .token (.literal text)

end Tree

/-- The marks of an operator, glued together. -/
def marks : List Char → List Tree
  | [] => []
  | c :: rest => .token (.punct c (!rest.isEmpty)) :: marks rest

/-- The trees of an operator. -/
def operator (text : String) : List Tree := marks text.toList

/-- A token of a text when brackets count as tokens. -/
inductive Lexeme where
  | token (token : Token)
  | opening (delimiter : Delimiter)
  | closing (delimiter : Delimiter)
  deriving DecidableEq, Repr

mutual

/-- The tokens of a tree from left to right. -/
def Tree.lexemes : Tree → List Lexeme
  | .token t => [.token t]
  | .group d inner => .opening d :: (lexemes inner ++ [.closing d])
  | .phrase _ parts => lexemes parts

/-- The tokens of some trees from left to right. -/
def lexemes : List Tree → List Lexeme
  | [] => []
  | t :: ts => t.lexemes ++ lexemes ts

end

theorem lexemes_append (xs ys : List Tree) : lexemes (xs ++ ys) = lexemes xs ++ lexemes ys := by
  induction xs with
  | nil => rfl
  | cons x xs ih => simp [lexemes, ih]

/-- The opening bracket. -/
def Delimiter.opening : Delimiter → Char
  | .paren => '(' | .bracket => '[' | .brace => '\x7b'

/-- The closing bracket. -/
def Delimiter.closing : Delimiter → Char
  | .paren => ')' | .bracket => ']' | .brace => '\x7d'

/-- The text of a token. -/
def Token.text : Token → String
  | .ident text => text
  | .lifetime name => "'" ++ name
  | .punct mark _ => mark.toString
  | .literal text => text

/-- The text of a token or bracket. -/
def Lexeme.text : Lexeme → String
  | .token t => t.text
  | .opening d => d.opening.toString
  | .closing d => d.closing.toString

/-- A space stands between two neighbours unless the first is glued to the second; parentheses and square
brackets have none inside, braces always have. -/
def spaceBetween : Lexeme → Lexeme → Bool
  | .opening .brace, _ | _, .closing .brace => true
  | .token (.punct _ true), _ | .opening _, _ | _, .closing _ => false
  | _, _ => true

/-- The pieces of the spaced text. -/
def spacedPieces : List Lexeme → List String
  | [] => []
  | [x] => [x.text]
  | x :: y :: rest => x.text :: (if spaceBetween x y then [" "] else []) ++ spacedPieces (y :: rest)

/-- The text of some trees with one space between any two tokens that are not glued together. -/
def spacedText (trees : List Tree) : String := String.join (spacedPieces (lexemes trees))

/-- The text of some trees with one space between any two tokens, glued or not. -/
def separatedText (trees : List Tree) : String :=
  String.intercalate " " ((lexemes trees).map Lexeme.text)

mutual

/-- The number of tokens of a tree, a group counting as two. -/
def Tree.size : Tree → Nat
  | .token _ => 1
  | .group _ inner => size inner + 2
  | .phrase _ parts => size parts

/-- The number of tokens of some trees. -/
def size : List Tree → Nat
  | [] => 0
  | t :: ts => t.size + size ts

end

end ServiceContainer.Syntax
