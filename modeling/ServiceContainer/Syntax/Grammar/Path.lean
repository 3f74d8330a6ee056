import ServiceContainer.Syntax.Grammar

/-!
# Paths, bounds and attributes

## Main definitions

* `plainPath` — a path without arguments
* `Grammar.path`, `Grammar.qualifiedPath` — paths
* `Grammar.segmentOf` — a segment of a path, with its arguments in angle brackets, lifetimes first
* `Grammar.bound`, `Grammar.bounds` — the bounds of a type
* `Grammar.attributeBody`, `Grammar.outerAttributes`, `Grammar.innerAttributes` — attributes
-/

namespace ServiceContainer.Syntax

open ServiceContainer.Syntax.Parser

/-! ### Paths without arguments -/

/-- Words with `::` between them; `fuel` bounds their number. -/
def plainWords : Nat → Parser (List Tree)
  | 0 => failure
  | fuel + 1 => do
    let trees ← get
    if atIdent trees || atAnyWord ["super", "self", "Self", "crate"] trees then
      let x ← anyWord
      if atOperator "::" (← get) then
        let colons ← op "::"
        return x ++ colons ++ (← plainWords fuel)
      else return x
    else failure

/-- A path without arguments. -/
def plainPath : Parser (List Tree) := do
  let front ← opIf "::"
  return front ++ (← plainWords ((← get).length + 1))

/-- The path has no arguments. -/
def isPlain (path : List Tree) : Bool :=
  path.all fun t => match t with
    | .phrase .segment parts => parts.length == 1
    | _ => true

/-- The segment has no arguments; angle brackets with nothing inside hold none. -/
def isBareSegment : Tree → Bool
  | .phrase .segment [_] => true
  | .phrase .segment [_, .phrase .angle parts] =>
    match parts.dropWhile fun t => atOperator ":" [t] with
    | [.token (.punct '<' _), .token (.punct '>' _)] => true
    | _ => false
  | _ => false

/-- The last segment of the path has no arguments. -/
def endsPlain (path : List Tree) : Bool := path.getLast?.any isBareSegment

/-- The path with these arguments on its last segment. -/
def onLastSegment (arguments : Tree) : List Tree → List Tree
  | [] => []
  | [.phrase .segment (name :: _)] => [.phrase .segment [name, arguments]]
  | t :: ts => t :: onLastSegment arguments ts

/-! ### Arguments with the lifetimes first -/

/-- Values with the commas after them; a comma is put where the value before has none. -/
def joinCommas (closed : Bool) : List (List Tree × List Tree) → List Tree
  | [] => []
  | (x, comma) :: rest =>
    (if closed then [] else operator ",") ++ x ++ comma ++ joinCommas (!comma.isEmpty) rest

/-- Arguments, parameters or captured names with those first that are marked as lifetimes. -/
def lifetimesFirst (xs : List ((Bool × List Tree) × List Tree)) : List Tree :=
  joinCommas true ((xs.filter (·.1.1) ++ xs.filter (!·.1.1)).map fun ((_, x), comma) => (x, comma))

/-- The type is a path of one segment, which may bind an associated name. -/
def isBindable : Tree → Bool
  | .phrase .typePath [.phrase .segment [_]] => true
  | .phrase .typePath [.phrase .segment [_, .phrase .angle _]] => true
  | _ => false

/-- The trees of a bindable type without its phrases. -/
def bindingName : Tree → List Tree
  | .phrase .typePath [.phrase .segment parts] => parts
  | t => [t]

/-- A binder is meant where `<` follows a word, not a path in angle brackets. -/
def binderFollows (trees : List Tree) : Bool :=
  atOperator "<" trees
    && (atAnyOperator [">", "#"] (trees.drop 1)
      || ((atLifetime (trees.drop 1) || atIdent (trees.drop 1))
        && (atAnyOperator [">", ",", "="] (trees.drop 2)
          || (atOperator ":" (trees.drop 2) && !atOperator "::" (trees.drop 2))))
      || atWord "const" (trees.drop 1))

/-- The trees begin a call of something built in by its name. -/
def atBuiltin (trees : List Tree) : Bool := atWord "builtin" trees && atOperator "#" (trees.drop 1)

/-- A call of something built in: its name after `#` and any trees in parentheses. -/
def builtinCall : Parser (List Tree) :=
  asWritten do
    let _ ← inOrder [anyWord, op "#", ident]
    groupInner .paren

/-- The trees begin a bound. -/
def atBound (trees : List Tree) : Bool :=
  (word? trees).isSome || atAnyOperator ["::", "?"] trees || atLifetime trees || atGroup .paren trees

namespace Grammar

variable (g : Grammar)

/-- A block without attributes of its own. -/
def bareBlock : Parser (List Tree) := inside .brace g.statements

/-- An expression as trees. -/
def exprTrees : Parser (List Tree) := return (← g.expr true).trees

/-- A type as trees. -/
def typeTrees : Parser (List Tree) := return [← g.type true]

/-! ### Attributes -/

/-- The value of an attribute. A literal alone is one, a further attribute is none. -/
def attributeValue : Parser (List Tree) := do
  let trees ← get
  if atOperator "#" trees && atGroup .bracket (trees.drop 1) then failure
  else g.exprTrees

/-- The path of an attribute and what follows it. -/
def attributeBody : Parser AttributeBody := do
  let path ← if atWord "unsafe" (← get) then anyWord else plainPath
  let trees ← get
  match trees with
  | .group d inner :: rest => do set rest; return ⟨path, .list d inner⟩
  | _ =>
    if atOperator "=" trees && !atAnyOperator ["==", "=>"] trees then
      let _ ← op "="
      return ⟨path, .value (← g.attributeValue)⟩
    else return ⟨path, .bare⟩

/-- One attribute. -/
def oneAttribute (inner : Bool) : Parser Attribute := do
  let _ ← op "#"
  if inner then let _ ← op "!"
  return ⟨inner, ← within .bracket g.attributeBody⟩

/-- The attributes before an item. -/
def outerAttributes : Parser (List Attribute) :=
  repeatWhile (g.oneAttribute false) (atOperator "#")

/-- The attributes at the front of a block. -/
def innerAttributes : Parser (List Attribute) :=
  repeatWhile (g.oneAttribute true) fun trees => atOperator "#" trees && atOperator "!" (trees.drop 1)

/-- The attributes before a part of an item, as trees. -/
def attributes : Parser (List Tree) := return outerTrees (← g.outerAttributes)

/-- A block: braces around attributes of the block and statements. -/
def block : Parser (List Tree) := inside .brace do
  let lead ← g.innerAttributes
  return innerTrees lead ++ (← g.statements)

/-! ### Paths -/

/-- Segments with `::` before each, as long as no parenthesis follows the `::`; `fuel` bounds their number. -/
def furtherSegments (inExpr : Bool) : Nat → Parser (List Tree)
  | 0 => failure
  | fuel + 1 => do
    let trees ← get
    if atOperator "::" trees && !atGroup .paren (trees.drop 2) then
      let colons ← op "::"
      let x ← g.segment inExpr
      return colons ++ x :: (← furtherSegments inExpr fuel)
    else return []

/-- A path. -/
def path (inExpr : Bool) : Parser (List Tree) := do
  let front ← opIf "::"
  let x ← g.segment inExpr
  return front ++ x :: (← g.furtherSegments inExpr ((← get).length + 1))

/-- A path that may begin with a type in angle brackets; the flag says whether it does. -/
def qualifiedPath (inExpr : Bool) : Parser (Bool × List Tree) := do
  if atOperator "<" (← get) then
    let front ← op "<"
    let self ← g.type true
    let trait ← if atWord "as" (← get) then both (word "as") (g.path false) else nothing
    let close ← both (op ">") (op "::")
    let segments ← chained (return [← g.segment inExpr]) "::" fun _ => false
    return (true, front ++ self :: trait ++ close ++ flatten segments)
  else return (false, ← g.path inExpr)

/-- The value of an argument that is a constant: a literal, a name or a block. -/
def constantArgument : Parser (List Tree) := do
  let trees ← get
  if atLiteral trees then literal
  else if atIdent trees then ident
  else g.block

/-! ### Bounds -/

/-- The result of a function, if it is given. -/
def result (plus : Bool) : Parser (Option Tree) := do
  if atOperator "->" (← get) then
    let _ ← op "->"
    return some (← g.type plus)
  else return none

/-- The trees of a result. -/
def resultTrees : Option Tree → List Tree
  | some t => operator "->" ++ [t]
  | none => []

/-- Arguments in parentheses with their result. -/
def callArguments : Parser Tree := do
  let arguments ← inside .paren (commaTrees g.typeTrees)
  return .phrase .call (arguments ++ resultTrees (← g.result false))

/-- The word `const` of a bound, with or without square brackets around it. -/
def constModifier : Parser (List Tree) := do
  if atGroup .bracket (← get) then inside .bracket (word "const") else wordIf "const"

/-- A trait as a bound, if it is free of `const`; only a relaxed bound may have that word. No binder goes with a
`?`. -/
def traitBound (relaxed : Bool) : Parser (Option (List Tree)) := do
  let binder ← if atWord "for" (← get) then g.binder else nothing
  let modifier ← constModifier
  if !modifier.isEmpty && !relaxed then failure
  let question ← opIf "?"
  let later ← if binder.isEmpty && !question.isEmpty && atWord "for" (← get) then g.binder else nothing
  let path ← g.path false
  let next ← get
  let path ←
    if endsPlain path && (atGroup .paren next || (atOperator "::" next && atGroup .paren (next.drop 2))) then do
      let _ ← opIf "::"
      pure (onLastSegment (← g.callArguments) path)
    else pure path
  if !question.isEmpty && !(binder.isEmpty && later.isEmpty) then failure
  return if modifier.isEmpty then some (question ++ binder ++ path) else none

/-- The captured names `use<…>` among bounds, lifetimes first. -/
def capture : Parser Tree := do
  let lead ← both (word "use") (op "<")
  let captured : Parser (Bool × List Tree) := do
    let trees ← get
    if atLifetime trees then return (true, ← lifetime)
    else if atIdent trees || atWord "Self" trees then return (false, ← anyWord)
    else failure
  let names ← separated captured "," (atOperator ">")
  return .phrase .capture (lead ++ lifetimesFirst names ++ (← op ">"))

/-- One bound: a lifetime, or a trait, which may stand in parentheses. A relaxed bound may have the word `const`, and
is then kept as it is written. -/
def bound (relaxed captures : Bool) : Parser Tree := do
  let trees ← get
  if atLifetime trees then one
  else if atWord "use" trees then
    if captures then capture else failure
  else
    let trait ←
      if atGroup .paren trees then
        pure ((← within .paren (g.traitBound relaxed)).map fun parts => [Tree.group .paren parts])
      else g.traitBound relaxed
    match trait with
    | some parts => return .phrase .traitBound parts
    | none => return .phrase .verbatim (← readSince trees)

/-- Bounds joined by `+` in a type, at least one, and only one unless `plus` is set. Those of `impl` are relaxed and
may capture names. `fuel` bounds their number. -/
def boundsUpTo (plus ofImpl : Bool) : Nat → Parser (List Tree)
  | 0 => failure
  | fuel + 1 => do
    let x ← g.bound ofImpl ofImpl
    if plus && atOperator "+" (← get) then
      let sign ← op "+"
      let next ← get
      if atBound next || (ofImpl && atGroup .bracket next) then
        return x :: sign ++ (← boundsUpTo plus ofImpl fuel)
      else return x :: sign
    else return [x]

/-- Bounds joined by `+` in a type. -/
def bounds (plus ofImpl : Bool) : Parser (List Tree) := do
  g.boundsUpTo plus ofImpl ((← get).length + 1)

/-- The relaxed bounds of a declaration, up to where `stop` holds or no `+` follows. -/
def declaredBounds (stop : List Tree → Bool) : Parser (List Tree) := do
  return flatten (← chained (return [← g.bound true false]) "+" stop)

/-! ### Segments -/

/-- An argument in angle brackets; the flag says whether it is a lifetime. -/
def genericArgument : Parser (Bool × List Tree) := do
  let trees ← get
  if atLifetime trees && !atOperator "+" (trees.drop 1) then return (true, ← lifetime)
  if atLiteral trees || atGroup .brace trees then
    return (false, [.phrase .constant (← g.constantArgument)])
  let t ← g.type true
  let next ← get
  if isBindable t && atOperator "=" next then
    let sign ← op "="
    let after ← get
    let value ← if atLiteral after || atGroup .brace after then g.constantArgument else g.typeTrees
    return (false, [.phrase .binding (bindingName t ++ sign ++ value)])
  else if isBindable t && atOperator ":" next then
    let sign ← op ":"
    let limits ← g.declaredBounds (atAnyOperator [",", ">"])
    return (false, [.phrase .binding (bindingName t ++ sign ++ limits)])
  else return (false, [t])

/-- Arguments in angle brackets, with or without `::` before them. -/
def angleArguments : Parser Tree := do
  let front ← both (opIf "::") (op "<")
  let arguments ← separated g.genericArgument "," (atOperator ">")
  return .phrase .angle (front ++ lifetimesFirst arguments ++ (← op ">"))

/-- A segment of a path. In an expression, arguments in angle brackets need `::` before them. -/
def segmentOf (inExpr : Bool) : Parser Tree := do
  let trees ← get
  if atAnyWord ["super", "self", "crate", "try"] trees then
    return .phrase .segment (← anyWord)
  let x ← if atWord "Self" trees then anyWord else ident
  let next ← get
  if (!inExpr && atOperator "<" next && !atAnyOperator ["<=", "<<="] next)
      || (atOperator "::" next && atOperator "<" (next.drop 2)) then
    return .phrase .segment (x ++ [← g.angleArguments])
  else return .phrase .segment x

end Grammar

end ServiceContainer.Syntax
