import ServiceContainer.Syntax.Grammar.Field
import ServiceContainer.Syntax.Grammar.Path

/-!
# Patterns

## Main definitions

* `Grammar.patternOf` — a pattern without alternatives
* `Grammar.patterns` — a pattern with alternatives
* `boundName?` — the name that a pattern binds, if it is nothing but a name
-/

namespace ServiceContainer.Syntax

open ServiceContainer.Syntax.Parser

/-- The name that a pattern binds if it is a name, with or without modifiers and a pattern for what it names. -/
def boundName? (pattern : List Tree) : Option String :=
  let pattern := if atWord "ref" pattern then pattern.drop 1 else pattern
  let pattern := if atWord "mut" pattern then pattern.drop 1 else pattern
  match pattern with
  | .token (.ident text) :: rest =>
    if (atIdent pattern || text == "self") && (rest.isEmpty || atOperator "@" rest) then some text else none
  | _ => none

/-- The trees begin with one mark of alternatives. -/
def atAlternative (trees : List Tree) : Bool :=
  atOperator "|" trees && !atAnyOperator ["||", "|="] trees

namespace Grammar

variable (g : Grammar)

/-- Patterns with `|` between them; `fuel` bounds their number. -/
def alternatives : Nat → Parser Pattern
  | 0 => failure
  | fuel + 1 => do
    let x ← g.pattern
    if atAlternative (← get) then
      let bar ← op "|"
      return ⟨.other, x.trees ++ bar ++ (← alternatives fuel).trees⟩
    else return x

/-- A pattern with alternatives, which a `|` may introduce. -/
def choice : Parser Pattern := do
  let front ← opIf "|"
  let x ← g.alternatives ((← get).length + 1)
  return if front.isEmpty then x else ⟨.other, front ++ x.trees⟩

/-- A pattern with alternatives as trees. -/
def patterns : Parser (List Tree) := return (← g.choice).trees

/-- An element of a slice, which is no range with a missing end. -/
def element : Parser (List Tree) := do
  let x ← g.choice
  match x.shape with
  | .range true => failure
  | _ => return x.trees

/-- The end of a range in a pattern, which may be absent. -/
def rangeEnd : Parser (List Tree) := do
  let trees ← get
  if trees.isEmpty || atAnyOperator ["|", "=", ",", ";"] trees
      || (atOperator ":" trees && !atOperator "::" trees) || atWord "if" trees then
    return []
  if atLiteral trees then literal
  else if atIdent trees || atAnyOperator ["::", "<"] trees
      || atAnyWord ["self", "Self", "super", "crate"] trees then
    return (← g.qualifiedPath true).2
  else if atWord "const" trees then both anyWord g.block
  else failure

/-- The range that follows the first end of a range in a pattern. Three dots stand for `..=`. -/
def rangeAfter (first : List Tree) : Parser Pattern := do
  let trees ← get
  if atAnyOperator ["..=", "..."] trees then
    let _ ← op (if atOperator "..=" trees then "..=" else "...")
    let last ← g.rangeEnd
    if last.isEmpty then failure
    return ⟨.range false, first ++ operator "..=" ++ last⟩
  else
    let dots ← op ".."
    let last ← g.rangeEnd
    return ⟨.range last.isEmpty, first ++ dots ++ last⟩

/-- The field of a struct pattern. -/
def fieldPattern : Parser (List Tree) := do
  let modifiers ← inOrder [wordIf "box", wordIf "ref", wordIf "mut"]
  if !modifiers.isEmpty then return modifiers ++ (← ident)
  let (named, x) ← fieldName
  if named && !atOperator ":" (← get) then return x
  let colon ← op ":"
  return x ++ colon ++ (← g.patterns)

/-- The fields of a struct pattern; `..` ends them. `fuel` bounds their number. -/
def fieldPatterns : Nat → Parser (List Tree)
  | 0 => failure
  | fuel + 1 => do
    if ← atEnd then return []
    let lead ← g.attributes
    if atOperator ".." (← get) then return lead ++ (← op "..")
    let x ← g.fieldPattern
    if ← atEnd then return lead ++ x
    let comma ← op ","
    return lead ++ x ++ comma ++ (← fieldPatterns fuel)

/-- A pattern that begins with a path. -/
def pathPattern : Parser Pattern := do
  let (qualified, path) ← g.qualifiedPath true
  let next ← get
  if !qualified && atOperator "!" next && !atOperator "!=" next && isPlain path then
    let sign ← op "!"
    return ⟨.other, path ++ sign ++ [← anyGroup]⟩
  if atGroup .brace next then
    return ⟨.other, path ++ (← inside .brace (do g.fieldPatterns ((← get).length + 1)))⟩
  if atGroup .paren next then return ⟨.other, path ++ (← inside .paren (commaTrees g.patterns))⟩
  if atOperator ".." next then g.rangeAfter path
  else return ⟨.other, path⟩

/-- A pattern that begins with a constant block. -/
def constantPattern : Parser Pattern := do
  let lead ← word "const"
  let (attributes, body) ← within .brace (return (← g.innerAttributes, ← g.statements))
  let whole := lead ++ [.group .brace (innerTrees attributes ++ body)]
  if atOperator ".." (← get) then g.rangeAfter whole
  else return ⟨.constant (lead ++ [.group .brace body]), whole⟩

/-- A pattern that begins with a literal. -/
def literalPattern : Parser Pattern := do
  let first ← literal
  if atOperator ".." (← get) then g.rangeAfter first else return ⟨.other, first⟩

/-- A name with modifiers, and a pattern for what it names. -/
def namePattern : Parser (List Tree) := do
  let modifiers ← both (wordIf "ref") (wordIf "mut")
  let x ← if atWord "self" (← get) then anyWord else ident
  if atOperator "@" (← get) then
    let at_ ← op "@"
    return modifiers ++ x ++ at_ ++ (← g.pattern).trees
  else return modifiers ++ x

/-- The pattern `..`, or a range without its first end. -/
def restPattern : Parser Pattern := do
  if atOperator "..=" (← get) then
    let dots ← op "..="
    let last ← g.rangeEnd
    if last.isEmpty then failure
    return ⟨.range true, dots ++ last⟩
  else
    let dots ← op ".."
    let last ← g.rangeEnd
    return ⟨if last.isEmpty then .other else .range true, dots ++ last⟩

/-- A pattern without alternatives. -/
def patternOf : Parser Pattern := do
  let trees ← get
  let next := trees.drop 1
  if (atIdent trees && (atAnyOperator ["::", "!", ".."] next || atGroup .brace next || atGroup .paren next))
      || (atWord "self" trees && atOperator "::" next) || atAnyOperator ["::", "<"] trees
      || atAnyWord ["Self", "super", "crate"] trees then
    g.pathPattern
  else if atWord "_" trees then return ⟨.other, ← anyWord⟩
  else if atWord "box" trees then
    return ⟨.verbatim, ← asWritten do
      let _ ← anyWord
      g.pattern⟩
  else if atLiteral trees then g.literalPattern
  else if atWord "const" trees then g.constantPattern
  else if atAnyWord ["ref", "mut", "self"] trees || atIdent trees then return ⟨.other, ← g.namePattern⟩
  else if atOperator "&" trees then
    return ⟨.other, ← inOrder [op "&", wordIf "mut", (return (← g.pattern).trees)]⟩
  else if atGroup .paren trees then return ⟨.other, ← inside .paren (commaTrees g.patterns)⟩
  else if atGroup .bracket trees then return ⟨.other, ← inside .bracket (commaTrees g.element)⟩
  else if atOperator ".." trees && !atOperator "..." trees then g.restPattern
  else failure

end Grammar

end ServiceContainer.Syntax
