import ServiceContainer.Syntax.Item
import ServiceContainer.Syntax.Parser

/-!
# The grammar as a record of parsers

Types, expressions, patterns, statements and items contain one another. Each part of the grammar is written over a
record of parsers for the parts inside it, and the parts are tied together at the end
(`ServiceContainer.Syntax.Reader`), each level of nesting using the record of the level below.

## Main definitions

* `Precedence` — how tightly an operator binds
* `ExprShape`, `Expr` — what an expression was read as, and its trees
* `PatternShape`, `Pattern` — the same for a pattern
* `Grammar` — the record
-/

namespace ServiceContainer.Syntax

/-- How tightly an operator binds, from loosest to tightest. -/
inductive Precedence where
  | lowest | assign | range | or | and | letting | compare | bitOr | bitXor | bitAnd | shift | sum | product | cast
  deriving DecidableEq, Repr

/-- The rank of a precedence. -/
def Precedence.rank : Precedence → Nat
  | .lowest => 0 | .assign => 1 | .range => 2 | .or => 3 | .and => 4 | .letting => 5 | .compare => 6
  | .bitOr => 7 | .bitXor => 8 | .bitAnd => 9 | .shift => 10 | .sum => 11 | .product => 12 | .cast => 13

/-- What an expression is, as far as what may follow it depends on that. -/
inductive ExprShape where
  /-- A range with or without ends. -/
  | range
  /-- A comparison, which no second comparison may follow. -/
  | comparison
  /-- An expression that ends with a block and stands as a statement without a semicolon. -/
  | block
  /-- A macro call with braces. -/
  | bracedCall
  | other
  deriving DecidableEq, Repr

/-- An expression that was read; `verbatim` when its leftmost operand is kept as it is written. -/
structure Expr where
  shape : ExprShape
  verbatim : Bool
  trees : List Tree

/-- The expression with attributes before it. A range needs parentheses then; an operand that is kept as it is
written has no place for attributes, so they are dropped. -/
def Expr.withAttributes (attributes : List Tree) (x : Expr) : Expr :=
  if attributes.isEmpty || x.verbatim then x
  else if x.shape = .range then ⟨.range, false, attributes ++ [.group .paren x.trees]⟩
  else ⟨x.shape, false, attributes ++ x.trees⟩

/-- What a pattern is, as far as its place depends on that. -/
inductive PatternShape where
  /-- A range; `isOpen` when an end is missing. -/
  | range (isOpen : Bool)
  /-- A constant block, with its trees when attributes inside the block are left out. -/
  | constant (plain : List Tree)
  /-- A pattern that is kept as it is written. -/
  | verbatim
  | other

/-- A pattern that was read. -/
structure Pattern where
  shape : PatternShape
  trees : List Tree

/-- The pattern with attributes before it, which take the place of those inside a constant block. A range needs
parentheses then, and a pattern that is kept as it is written drops them. -/
def Pattern.withAttributes (attributes : List Tree) (p : Pattern) : List Tree :=
  match p.shape with
  | .range _ => if attributes.isEmpty then p.trees else attributes ++ [.group .paren p.trees]
  | .constant plain => attributes ++ plain
  | .verbatim => p.trees
  | .other => attributes ++ p.trees

/-- Parsers for the parts inside a part. -/
structure Grammar where
  /-- A type; the flag allows several bounds joined by `+`. -/
  type : Bool → Parser Tree
  /-- A segment of a path; the flag says that the path is an expression. -/
  segment : Bool → Parser Tree
  /-- The binder `for<…>` of a type or bound. -/
  binder : Parser (List Tree)
  /-- An expression; the flag allows struct literals at its front. -/
  expr : Bool → Parser Expr
  /-- An operand with its prefix operators. -/
  unary : Bool → Parser Expr
  /-- The operators after an operand that bind at least as tightly as given. -/
  binary : Bool → Expr → Precedence → Parser Expr
  /-- An expression as a statement or as the body of a match arm. -/
  statementExpr : Parser Expr
  /-- A pattern without alternatives. -/
  pattern : Parser Pattern
  /-- The statements up to the end. -/
  statements : Parser (List Tree)
  /-- The braces around named fields. -/
  fields : Parser (List Tree)
  /-- A tree of imported names, if no name in its braces begins with `::`; the flag allows such names. -/
  imports : Bool → Parser (Option (List Tree))
  /-- An item. -/
  item : Parser Item

/-- The grammar without any words. -/
def Grammar.empty : Grammar where
  type _ := failure
  segment _ := failure
  binder := failure
  expr _ := failure
  unary _ := failure
  binary _ _ _ := failure
  statementExpr := failure
  pattern := failure
  statements := failure
  fields := failure
  imports _ := failure
  item := failure

end ServiceContainer.Syntax
