import ServiceContainer.Syntax.Grammar.Generics
import ServiceContainer.Syntax.Grammar.Pattern

/-!
# Expressions

An expression is an operand with prefix and postfix operators, and binary operators between operands. What an
expression is decides what may follow it: a comparison does not follow a comparison, nothing is called on a range,
and a block ends a statement.

## Main definitions

* `binaryOperator?` — the binary operator at the front
* `Grammar.exprOf`, `Grammar.unaryOf`, `Grammar.binaryOf` — expressions
* `Grammar.statementExprOf` — an expression that ends where a block ends a statement
-/

namespace ServiceContainer.Syntax

open ServiceContainer.Syntax.Parser

/-- The binary operators with their precedence; of two that begin alike the longer comes first. -/
def binaryOperators : List (String × Precedence) :=
  [("+=", .assign), ("-=", .assign), ("*=", .assign), ("/=", .assign), ("%=", .assign), ("^=", .assign),
   ("&=", .assign), ("|=", .assign), ("<<=", .assign), (">>=", .assign), ("&&", .and), ("||", .or),
   ("<<", .shift), (">>", .shift), ("==", .compare), ("<=", .compare), ("!=", .compare), (">=", .compare),
   ("+", .sum), ("-", .sum), ("*", .product), ("/", .product), ("%", .product), ("^", .bitXor), ("&", .bitAnd),
   ("|", .bitOr), ("<", .compare), (">", .compare)]

/-- The binary operator at the front. -/
def binaryOperator? (trees : List Tree) : Option (String × Precedence) :=
  binaryOperators.find? fun (text, _) => atOperator text trees

/-- The precedence of the operator at the front, the lowest if there is none. -/
def precedenceAt (trees : List Tree) : Precedence :=
  match binaryOperator? trees with
  | some (_, p) => p
  | none =>
    if atOperator "=" trees && !atOperator "=>" trees then .assign
    else if atOperator ".." trees then .range
    else if atWord "as" trees then .cast
    else .lowest

/-- The trees begin an expression. -/
def atExpr (trees : List Tree) : Bool :=
  ((word? trees).isSome && !atWord "as" trees)
    || atGroup .paren trees || atGroup .bracket trees || atGroup .brace trees || atLiteral trees
    || (atOperator "!" trees && !atOperator "!=" trees)
    || (atOperator "-" trees && !atAnyOperator ["-=", "->"] trees)
    || (atOperator "*" trees && !atOperator "*=" trees)
    || (atOperator "|" trees && !atOperator "|=" trees)
    || (atOperator "&" trees && !atOperator "&=" trees)
    || atOperator ".." trees
    || (atOperator "<" trees && !atAnyOperator ["<=", "<<="] trees)
    || atOperator "::" trees || atLifetime trees || atOperator "#" trees

/-- The trees begin with a field access or a method call. -/
def atDot (trees : List Tree) : Bool := atOperator "." trees && !atOperator ".." trees

namespace Grammar

variable (g : Grammar)

/-- An expression of no special shape. -/
def plainExpr (trees : List Tree) : Expr := ⟨.other, false, trees⟩

/-- An expression that a block ends. -/
def blockExpr (trees : List Tree) : Expr := ⟨.block, false, trees⟩

/-- An expression without struct literals at its front, as the head of a block. -/
def headTrees : Parser (List Tree) := return (← g.expr false).trees

/-- Expressions with commas in between, up to the end. -/
def exprList : Parser (List Tree) := commaTrees g.exprTrees

/-! ### Blocks -/

/-- The expression `if` with its branches; `fuel` bounds their number. -/
def branches : Nat → Parser (List Tree)
  | 0 => failure
  | fuel + 1 => do
    let lead ← inOrder [word "if", g.headTrees, g.bareBlock]
    if atWord "else" (← get) then
      let otherwise ← anyWord
      if atWord "if" (← get) then return lead ++ otherwise ++ (← branches fuel)
      else return lead ++ otherwise ++ (← g.bareBlock)
    else return lead

/-- The body of a match arm ends with a comma unless it is a block or the last. -/
def armEnd (body : Expr) : Parser (List Tree) := do
  if body.shape != .block && !(← atEnd) then op "," else opIf ","

/-- Loops and blocks with a word or a brace at their front. -/
def loopOrBlock : Parser (List Tree) := do
  let trees ← get
  if atWord "while" trees then inOrder [anyWord, g.headTrees, g.block]
  else if atWord "for" trees then inOrder [anyWord, g.patterns, word "in", g.headTrees, g.block]
  else if atWord "loop" trees then both anyWord g.block
  else if atGroup .brace trees then g.block
  else failure

/-- A labelled loop or block. -/
def labelled : Parser Expr := do
  let label ← both lifetime (op ":")
  return blockExpr (label ++ (← g.loopOrBlock))

/-- The arms of a match. -/
def arms : Parser (List Tree) := do
  let lead ← g.innerAttributes
  let arms ← untilEnd do
    let lead ← both g.attributes g.patterns
    let guard_ ← if atWord "if" (← get) then both anyWord g.exprTrees else nothing
    let arrow ← op "=>"
    let value ← g.statementExpr
    return lead ++ guard_ ++ arrow ++ value.trees ++ (← armEnd value)
  return innerTrees lead ++ arms.flatten

/-- An expression with a block at its end, by its first word. -/
def blockExpr? (trees : List Tree) : Option (Parser (List Tree)) :=
  if atWord "if" trees then some do g.branches ((← get).length + 1)
  else if atWord "while" trees || atWord "loop" trees || atGroup .brace trees then some g.loopOrBlock
  else if atWord "for" trees && !binderFollows (trees.drop 1) then some g.loopOrBlock
  else if atWord "match" trees then some (inOrder [anyWord, g.headTrees, inside .brace g.arms])
  else if atWord "try" trees && atGroup .brace (trees.drop 1) then some (both anyWord g.bareBlock)
  else if atWord "unsafe" trees then some (both anyWord g.block)
  else if atWord "const" trees && atGroup .brace (trees.drop 1) then some (both anyWord g.block)
  else none

/-! ### Closures -/

/-- A parameter of a closure. -/
def closureParameter : Parser (List Tree) := do
  let lead ← g.attributes
  let pattern ← g.pattern
  if atOperator ":" (← get) then
    let colon ← op ":"
    return lead ++ pattern.trees ++ colon ++ (← g.typeTrees)
  else return pattern.withAttributes lead

/-- A closure. -/
def closure (structs : Bool) : Parser (List Tree) := do
  let binder ← if atWord "for" (← get) then g.binder else nothing
  let lead ← inOrder [wordIf "const", wordIf "static", wordIf "async", wordIf "move", op "|"]
  let parameters ← separated g.closureParameter "," (atOperator "|")
  let close ← op "|"
  let front := binder ++ lead ++ flatten parameters ++ close
  if atOperator "->" (← get) then
    let result := resultTrees (← g.result true)
    return front ++ result ++ (← g.bareBlock)
  else return front ++ (← g.expr structs).trees

/-! ### Operands -/

/-- The fields of a struct literal; `..` and a base end them. `fuel` bounds their number. -/
def fieldValues : Nat → Parser (List Tree)
  | 0 => failure
  | fuel + 1 => do
    if ← atEnd then return []
    if atOperator ".." (← get) then
      let dots ← op ".."
      if ← atEnd then return dots else return dots ++ (← g.exprTrees)
    let lead ← g.attributes
    let (named, x) ← fieldName
    let value ← if !named || atOperator ":" (← get) then both (op ":") g.exprTrees else nothing
    if ← atEnd then return lead ++ x ++ value
    let comma ← op ","
    return lead ++ x ++ value ++ comma ++ (← fieldValues fuel)

/-- A path, a macro call or a struct literal. -/
def pathExpr (structs : Bool) : Parser Expr := do
  let (qualified, path) ← g.qualifiedPath true
  let next ← get
  if !qualified && atOperator "!" next && !atOperator "!=" next && isPlain path then
    let sign ← op "!"
    let shape := if atGroup .brace (next.drop 1) then ExprShape.bracedCall else .other
    return ⟨shape, false, path ++ sign ++ [← anyGroup]⟩
  if structs && atGroup .brace next then
    return plainExpr (path ++ (← inside .brace (do g.fieldValues ((← get).length + 1))))
  return plainExpr path

/-- The inside of square brackets: a list, or a value and how often it is repeated. -/
def elements : Parser (List Tree) := do
  if ← atEnd then return []
  let first ← g.exprTrees
  if atOperator ";" (← get) then
    let semi ← op ";"
    return first ++ semi ++ (← g.exprTrees)
  if ← atEnd then return first
  let comma ← op ","
  return first ++ comma ++ (← g.exprList)

/-- Where a range without an end may stop. -/
def atRangeEnd (structs : Bool) (trees : List Tree) : Bool :=
  trees.isEmpty || atAnyOperator [",", ";", "?", "=>", "=", "+", "/", "%", "^", ">", "<=", "!=", "-=", "*=",
      "&=", "|=", "<<="] trees
    || atDot trees || (!structs && atGroup .brace trees) || atWord "as" trees

/-- Further operators that bind more tightly than the one before the operand; `fuel` bounds their number. -/
def tighter (structs : Bool) (base : Precedence) (operand : Expr) : Nat → Parser Expr
  | 0 => failure
  | fuel + 1 => do
    let trees ← get
    let next := precedenceAt trees
    if base.rank < next.rank || (next = base && base = .assign) then
      let more ← g.binary structs operand next
      if size (← get) == size trees then return more
      tighter structs base more fuel
    else return operand

/-- The right operand of a binary operator. -/
def rightOperand (structs : Bool) (base : Precedence) : Parser (List Tree) := do
  let operand ← g.unary structs
  return (← g.tighter structs base operand ((← get).length + 1)).trees

/-- The dots of a range and its end, which may be absent unless it is included. -/
def rangeTail (structs : Bool) : Parser (List Tree) := do
  let trees ← get
  if atOperator "..=" trees then both (op "..=") (g.rightOperand structs .range)
  else if atOperator "..." trees then failure
  else
    let dots ← op ".."
    if atRangeEnd structs (← get) then return dots
    else return dots ++ (← g.rightOperand structs .range)

/-- The condition `let`, whose value holds no looser operator than a comparison. -/
def letExpr (structs : Bool) : Parser (List Tree) := do
  let lead ← inOrder [word "let", g.patterns, op "="]
  let operand ← g.unary structs
  return lead ++ (← g.binary structs operand .compare).trees

/-- The expression `break` with a label and a value. A labelled value needs parentheses. -/
def breakExpr (structs : Bool) : Parser (List Tree) := do
  let lead ← word "break"
  let label ← if atLifetime (← get) then lifetime else nothing
  let next ← get
  if !label.isEmpty && atOperator ":" next then failure
  if atExpr next && (structs || !atGroup .brace next) then return lead ++ label ++ (← g.exprTrees)
  else return lead ++ label

/-- A word with a value that may be absent. -/
def leaving : Parser (List Tree) := do
  let lead ← anyWord
  if atExpr (← get) then return lead ++ (← g.exprTrees) else return lead

/-- An operand without operators. -/
def operand (structs : Bool) : Parser Expr := do
  let trees ← get
  let next := trees.drop 1
  let third := trees.drop 2
  if atLiteral trees && !atOperator "-" trees then return plainExpr (← literal)
  else if atWord "async" trees
      && (atGroup .brace next || (atWord "move" next && atGroup .brace third)) then
    return plainExpr (← inOrder [anyWord, wordIf "move", g.bareBlock])
  else if atWord "try" trees && atGroup .brace next then return blockExpr (← both anyWord g.bareBlock)
  else if atOperator "|" trees || atWord "move" trees
      || (atWord "for" trees && binderFollows next)
      || (atWord "const" trees && !atGroup .brace next) || atWord "static" trees
      || (atWord "async" trees && (atOperator "|" next || atWord "move" next)) then
    return plainExpr (← g.closure structs)
  else if atBuiltin trees then return ⟨.other, true, ← builtinCall⟩
  else if atIdent trees || atAnyOperator ["::", "<"] trees
      || atAnyWord ["self", "Self", "super", "crate"] trees
      || (atWord "try" trees && atAnyOperator ["!", "::"] next) then
    g.pathExpr structs
  else if atGroup .paren trees then return plainExpr (← inside .paren g.exprList)
  else if atWord "break" trees then return plainExpr (← g.breakExpr structs)
  else if atWord "continue" trees then
    let lead ← anyWord
    return plainExpr (lead ++ (← if atLifetime (← get) then lifetime else nothing))
  else if atAnyWord ["return", "yield"] trees then return plainExpr (← g.leaving)
  else if atWord "become" trees then return ⟨.other, true, ← asWritten (both anyWord g.exprTrees)⟩
  else if atGroup .bracket trees then return plainExpr (← inside .bracket g.elements)
  else if atWord "let" trees then return plainExpr (← g.letExpr structs)
  else match g.blockExpr? trees with
    | some p => return blockExpr (← p)
    | none =>
      if atOperator ".." trees then return ⟨.range, false, ← g.rangeTail structs⟩
      else if atWord "_" trees then return plainExpr (← anyWord)
      else if atLifetime trees then g.labelled
      else failure

/-- One field or a method call after its point. -/
def oneMember : Parser (List Tree) := do
  if atWord "await" (← get) then anyWord
  else
    let (named, x) ← fieldName
    if named && atOperator "::" (← get) then
      let turbofish ← g.angleArguments
      return x ++ turbofish :: (← inside .paren g.exprList)
    else if named && atGroup .paren (← get) then return x ++ (← inside .paren g.exprList)
    else return x

/-- Fields or a method call after a point. A literal with points in it names several fields, and one that ends with a
point has a further member after it. -/
def member : Parser (List Tree) := do
  match ← get with
  | .token (.literal text) :: rest =>
    let parts := text.splitOn "."
    if parts.length ≤ 1 then g.oneMember
    else
      set rest
      if parts.getLast? == some "" then
        let numbers ← liftM (fieldNumbers? parts.dropLast)
        return numbers ++ operator "." ++ (← g.oneMember)
      else liftM (fieldNumbers? parts)
  | _ => g.oneMember

/-- The postfix operators after an operand; `fuel` bounds their number. -/
def postfixUpTo (operand : Expr) : Nat → Parser Expr
  | 0 => failure
  | fuel + 1 => do
    let trees ← get
    let range := operand.shape = .range
    if atGroup .paren trees then
      let arguments ← inside .paren g.exprList
      postfixUpTo (plainExpr (operand.trees ++ arguments)) fuel
    else if atDot trees && !range then
      let point ← op "."
      let x ← g.member
      postfixUpTo (plainExpr (operand.trees ++ point ++ x)) fuel
    else if atGroup .bracket trees then
      let index ← inside .bracket g.exprTrees
      postfixUpTo (plainExpr (operand.trees ++ index)) fuel
    else if atOperator "?" trees && !range then
      let sign ← op "?"
      postfixUpTo (plainExpr (operand.trees ++ sign)) fuel
    else return operand

/-- The postfix operators after an operand. -/
def postfixOf (operand : Expr) : Parser Expr := do
  g.postfixUpTo operand ((← get).length + 1)

/-! ### Operators -/

/-- An operand with its prefix operators. No attributes stand before a range; an operand that is kept as it is
written keeps its attributes that way too. -/
def unaryOf (structs : Bool) : Parser Expr := do
  let start ← get
  let lead ← g.attributes
  let trees ← get
  if atOperator "&" trees then
    let sign ← op "&"
    let next ← get
    let raw := atWord "raw" next && atAnyWord ["mut", "const"] (next.drop 1)
    let modifiers ← if raw then both anyWord anyWord else wordIf "mut"
    return plainExpr (lead ++ sign ++ modifiers ++ (← g.unary structs).trees)
  else if atAnyOperator ["*", "!", "-"] trees then
    let sign ← if atOperator "*" trees then op "*" else if atOperator "!" trees then op "!" else op "-"
    return plainExpr (lead ++ sign ++ (← g.unary structs).trees)
  else
    let x ← g.postfixOf (← g.operand structs)
    if x.verbatim then return ⟨.other, true, ← readSince start⟩
    if x.shape = .range && !lead.isEmpty then failure
    return x.withAttributes lead

/-- What may not follow a cast without parentheses. -/
def atCastEnd (trees : List Tree) : Bool :=
  atDot trees || atOperator "?" trees || atGroup .bracket trees || atGroup .paren trees

/-- Binary operators after an operand that bind at least as tightly as `base`; `fuel` bounds their number. -/
def binaryUpTo (structs : Bool) (base : Precedence) (left : Expr) : Nat → Parser Expr
  | 0 => failure
  | fuel + 1 => do
    let trees ← get
    if left.shape = .range then return left
    match binaryOperator? trees with
    | some (text, p) =>
      if p.rank < base.rank then return left
      if p = .compare && left.shape = .comparison then failure
      let sign ← op text
      let right ← g.rightOperand structs p
      let shape := if p = .compare then ExprShape.comparison else .other
      binaryUpTo structs base ⟨shape, left.verbatim, left.trees ++ sign ++ right⟩ fuel
    | none =>
      if base.rank ≤ Precedence.assign.rank && atOperator "=" trees && !atOperator "=>" trees then
        let sign ← op "="
        let right ← g.rightOperand structs .assign
        binaryUpTo structs base ⟨.other, left.verbatim, left.trees ++ sign ++ right⟩ fuel
      else if base.rank ≤ Precedence.range.rank && atOperator ".." trees then
        let tail ← g.rangeTail structs
        binaryUpTo structs base ⟨.range, false, left.trees ++ tail⟩ fuel
      else if atWord "as" trees then
        let sign ← anyWord
        let t ← g.type false
        if atCastEnd (← get) then failure
        binaryUpTo structs base ⟨.other, left.verbatim, left.trees ++ sign ++ [t]⟩ fuel
      else return left

/-- Binary operators after an operand that bind at least as tightly as `base`. -/
def binaryOf (structs : Bool) (left : Expr) (base : Precedence) : Parser Expr := do
  g.binaryUpTo structs base left ((← get).length + 1)

/-- An expression. -/
def exprOf (structs : Bool) : Parser Expr := do
  let left ← g.unary structs
  g.binary structs left .lowest

/-- An expression as a statement or the body of a match arm, which a block ends unless a postfix operator that can
follow nothing else comes after it. -/
def statementExprOf : Parser Expr := do
  let lead ← g.attributes
  let trees ← get
  let first ← match g.blockExpr? trees with
    | some p => pure (blockExpr (← p))
    | none => if atLifetime trees then g.labelled else g.unary true
  let first := first.withAttributes lead
  let isBlock := (g.blockExpr? trees).isSome || atLifetime trees
  let next ← get
  if isBlock then
    if atDot next || atOperator "?" next then
      let x ← g.postfixOf first
      g.binary true x .lowest
    else return first
  else g.binary true first .lowest

end Grammar

end ServiceContainer.Syntax
