import ServiceContainer.Syntax.Grammar.Expression

/-!
# Statements

## Main definitions

* `Grammar.statementsOf` — the statements of a block
-/

namespace ServiceContainer.Syntax

open ServiceContainer.Syntax.Parser

/-- The trees begin the item that the words at the front announce. -/
def atItem (trees : List Tree) : Bool :=
  let next := trees.drop 1
  let third := trees.drop 2
  atAnyWord ["pub", "extern", "use", "fn", "mod", "type", "struct", "enum", "trait", "impl", "macro"] trees
    || (atWord "crate" trees && !atOperator "::" next)
    || (atWord "static" trees
      && (atWord "mut" next
        || (atIdent next && !(atWord "async" next && (atWord "move" third || atOperator "|" third)))))
    || (atWord "const" trees
      && !(atGroup .brace next || atWord "static" next
        || (atWord "async" next && !atAnyWord ["unsafe", "extern", "fn"] third)
        || atWord "move" next || atOperator "|" next))
    || (atWord "unsafe" trees && !atGroup .brace next)
    || (atWord "async" trees && atAnyWord ["unsafe", "extern", "fn"] next)
    || (atWord "union" trees && atIdent next)
    || (atWord "auto" trees && atWord "trait" next)
    || (atWord "default" trees && atAnyWord ["unsafe", "impl"] next)

/-- The trees after a path without arguments at the front. -/
def afterPlainPath (trees : List Tree) : Option (List Tree) := (plainPath trees).map (·.2)

/-- The trees begin the definition of a macro by name. -/
def atNamedCall (trees : List Tree) : Bool :=
  match afterPlainPath trees with
  | some rest => atOperator "!" rest && (atIdent (rest.drop 1) || atWord "try" (rest.drop 1))
  | none => false

/-- The trees begin a macro call with braces that is no operand. -/
def atBracedCall (trees : List Tree) : Bool :=
  match afterPlainPath trees with
  | some rest =>
    atOperator "!" rest && atGroup .brace (rest.drop 1)
      && !(atDot (rest.drop 2) || atOperator "?" (rest.drop 2))
  | none => false

mutual

/-- The tree ends with braces. A trait in parentheses counts as what stands inside them. -/
def Tree.endsWithBrace : Tree → Bool
  | .token _ => false
  | .group d _ => d == .brace
  | .phrase .traitBound [.group .paren parts] => Syntax.endsWithBrace parts
  | .phrase _ parts => Syntax.endsWithBrace parts

/-- The last tree ends with braces. -/
def endsWithBrace : List Tree → Bool
  | [] => false
  | [t] => t.endsWithBrace
  | _ :: ts => endsWithBrace ts

end

namespace Grammar

variable (g : Grammar)

/-- A `let` statement. -/
def localBinding : Parser (List Tree) := do
  let lead ← word "let"
  let pattern ← g.pattern
  let type ← if atOperator ":" (← get) then both (op ":") g.typeTrees else nothing
  if atOperator "=" (← get) then
    let sign ← op "="
    let value ← g.exprTrees
    let otherwise ←
      if !endsWithBrace value && atWord "else" (← get) then both anyWord g.bareBlock else nothing
    return lead ++ pattern.trees ++ type ++ sign ++ value ++ otherwise ++ (← op ";")
  else return lead ++ pattern.trees ++ type ++ (← op ";")

/-- One statement; the flag says whether a semicolon has to follow if another statement does. -/
def statement : Parser (Bool × List Tree) := do
  let start ← get
  let lead ← g.attributes
  let trees ← get
  if atBracedCall trees && !atNamedCall trees then
    let path ← plainPath
    let call ← both (op "!") (return [← anyGroup])
    return (false, lead ++ path ++ call ++ (← opIf ";"))
  else if atWord "let" trees then return (false, lead ++ (← g.localBinding))
  else if atItem trees || atNamedCall trees then
    set start
    return (false, (← g.item).trees)
  else
    let x ← g.statementExpr
    let semi ← opIf ";"
    let open_ := semi.isEmpty && x.shape != .block && x.shape != .bracedCall
    return (open_, (x.withAttributes lead).trees ++ semi)

/-- The statements up to the end; semicolons alone are none. `fuel` bounds their number. -/
def statementsUpTo : Nat → Parser (List Tree)
  | 0 => failure
  | fuel + 1 => do
    if ← atEnd then return []
    if atOperator ";" (← get) then
      let semi ← op ";"
      return semi ++ (← statementsUpTo fuel)
    let (open_, x) ← g.statement
    if open_ && !(← atEnd) then failure
    return x ++ (← statementsUpTo fuel)

/-- The statements up to the end. -/
def statementsOf : Parser (List Tree) := do g.statementsUpTo ((← get).length + 1)

end Grammar

end ServiceContainer.Syntax
