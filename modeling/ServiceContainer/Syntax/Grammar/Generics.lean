import ServiceContainer.Syntax.Grammar.Type

/-!
# Generic parameters

An empty list of parameters, an empty list of bounds and an empty `where` clause print as nothing.

## Main definitions

* `visibility` — who may see an item
* `Grammar.genericParameters`, `Grammar.binderOf` — parameters in angle brackets
* `Grammar.whereClause` — conditions on parameters
-/

namespace ServiceContainer.Syntax

open ServiceContainer.Syntax.Parser

/-- The inside of the parentheses after `pub`, if it restricts the visibility. -/
def restriction? (inner : List Tree) : Option (List Tree) :=
  if atAnyWord ["crate", "self", "super"] inner then if inner.length == 1 then some inner else none
  else if atWord "in" inner then onAll (both anyWord plainPath) inner
  else none

/-- The visibility of an item, which may be absent. -/
def visibility : Parser (List Tree) := do
  if atWord "pub" (← get) then
    let lead ← anyWord
    match ← get with
    | .group .paren inner :: rest =>
      match restriction? inner with
      | some path => do set rest; return lead ++ [.group .paren path]
      | none => if atWord "in" inner then failure else return lead
    | _ => return lead
  else return []

/-- The trees of the bounds after a colon, which an empty list of bounds leaves out. -/
def afterColon (bounds : List Tree) : List Tree := if bounds.isEmpty then [] else operator ":" ++ bounds

namespace Grammar

variable (g : Grammar)

/-- A lifetime parameter and the lifetimes it outlives. -/
def lifetimeParameter (stop : List Tree → Bool) : Parser (List Tree) := do
  let x ← lifetime
  if atOperator ":" (← get) then
    let _ ← op ":"
    return x ++ afterColon (flatten (← chained lifetime "+" stop))
  else return x

/-- A type parameter with its bounds and its default. -/
def typeParameter : Parser (List Tree) := do
  let x ← anyWord
  let limits ←
    if atOperator ":" (← get) then do
      let _ ← op ":"
      g.declaredBounds fun trees => trees.isEmpty || atAnyOperator [",", ">", "="] trees
    else nothing
  if atOperator "=" (← get) then
    let sign ← op "="
    return x ++ afterColon limits ++ sign ++ (← g.typeTrees)
  else return x ++ afterColon limits

/-- A constant parameter with its type and its default. -/
def constParameter : Parser (List Tree) := do
  let lead ← inOrder [word "const", ident, op ":", g.typeTrees]
  if atOperator "=" (← get) then
    let sign ← op "="
    return lead ++ sign ++ (← g.constantArgument)
  else return lead

/-- A parameter in angle brackets; the flag says whether it is a lifetime. Where `unnamed` is set, it may be `_`. -/
def genericParameter (unnamed : Bool) : Parser (Bool × List Tree) := do
  let lead ← g.attributes
  let trees ← get
  if atLifetime trees then
    let stop trees := List.isEmpty trees || atAnyOperator [",", ">"] trees
    return (true, lead ++ (← lifetimeParameter stop))
  else if atIdent trees then return (false, lead ++ (← g.typeParameter))
  else if unnamed && atWord "_" trees then return (false, lead ++ (← anyWord))
  else if atWord "const" trees then return (false, lead ++ (← g.constParameter))
  else failure

/-- The parameters of a declaration, which may be absent: whether there are any, and their trees. -/
def genericParameters : Parser (Bool × List Tree) := do
  if atOperator "<" (← get) then
    let front ← op "<"
    let parameters ← separated (g.genericParameter true) "," (atOperator ">")
    let close ← op ">"
    if parameters.isEmpty then return (false, [])
    return (true, front ++ lifetimesFirst parameters ++ close)
  else return (false, [])

/-- A binder: `for` and parameters in angle brackets. -/
def binderOf : Parser (List Tree) := do
  let lead ← both (word "for") (op "<")
  let parameters ← separated (g.genericParameter false) "," (atOperator ">")
  return lead ++ flatten (parameters.map fun ((_, x), comma) => (x, comma)) ++ (← op ">")

/-- Where the conditions of a `where` clause end. -/
def atClauseEnd (trees : List Tree) : Bool :=
  trees.isEmpty || atGroup .brace trees || atAnyOperator [",", ";"] trees
    || (atOperator ":" trees && !atOperator "::" trees) || atOperator "=" trees

/-- One condition of a `where` clause. -/
def condition : Parser (List Tree) := do
  let trees ← get
  if atLifetime trees && atOperator ":" (trees.drop 1) then
    let lead ← both lifetime (op ":")
    return lead ++ flatten (← chained lifetime "+" atClauseEnd)
  else
    let binder ← if atWord "for" trees then g.binder else nothing
    let lead ← both g.typeTrees (op ":")
    return binder ++ lead ++ (← g.declaredBounds atClauseEnd)

/-- The `where` clause of a declaration, which may be absent. It has no parameters of its own. -/
def whereClause : Parser (List Tree) := do
  if atWord "where" (← get) then
    let lead ← anyWord
    if binderFollows (← get) then failure
    let conditions ← chained g.condition "," atClauseEnd
    if conditions.isEmpty then return []
    return lead ++ flatten conditions
  else return []

end Grammar

end ServiceContainer.Syntax
