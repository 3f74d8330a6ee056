import ServiceContainer.Syntax.Grammar.Path

/-!
# Types

## Main definitions

* `Grammar.typeOf` — a type
-/

namespace ServiceContainer.Syntax

open ServiceContainer.Syntax.Parser

namespace Grammar

variable (g : Grammar)

/-- Some bound is a trait. -/
def hasTrait (bounds : List Tree) : Bool :=
  bounds.any fun t => match t with
    | .phrase .traitBound _ | .phrase .verbatim _ => true
    | _ => false

/-- A type of bounds with or without `dyn`; lifetimes alone make none. -/
def objectType (plus : Bool) : Parser Tree := do
  let lead ← wordIf "dyn"
  let bounds ← g.bounds plus false
  if hasTrait bounds then return .phrase .object (lead ++ bounds) else failure

/-- Further bounds of an object type, each after `+`; `fuel` bounds their number. -/
def furtherBounds (strict : Bool) : Nat → Parser (List Tree)
  | 0 => failure
  | fuel + 1 => do
    if atOperator "+" (← get) then
      let sign ← op "+"
      if !strict && !atBound (← get) then return sign
      let x ← g.bound false false
      return sign ++ x :: (← furtherBounds strict fuel)
    else return []

/-- The bound that a parenthesized type is when `+` follows it. -/
def parenthesizedBound? : Tree → Option Tree
  | .phrase .typePath parts => some (.phrase .traitBound [.group .paren parts])
  | .phrase .object [.phrase .traitBound [.group .paren parts]] =>
    some (.phrase .traitBound [.group .paren parts])
  | .phrase .object [.phrase .traitBound parts] => some (.phrase .traitBound [.group .paren parts])
  | .phrase .object [.token t] => some (.token t)
  | _ => none

/-- What stands in parentheses at the front of a type. -/
inductive Parenthesized where
  | whole (type : Tree)
  | bound (bound : Tree)
  | single (type : Tree)

/-- The inside of parentheses: a tuple, a bound, or one type. -/
def parenthesized : Parser Parenthesized := do
  let trees ← get
  if trees.isEmpty then return .whole (.phrase .tuple [.group .paren []])
  if atLifetime trees then
    return .whole (.phrase .parens [.group .paren [← g.objectType true]])
  if atOperator "?" trees then
    match ← g.traitBound false with
    | some parts => return .bound (.phrase .traitBound [.group .paren parts])
    | none => failure
  let first ← g.type true
  if atOperator "," (← get) then
    let comma ← op ","
    let rest ← commaTrees g.typeTrees
    return .whole (.phrase .tuple [.group .paren (first :: comma ++ rest)])
  return .single first

/-- A type that begins with a parenthesis. -/
def parenType (plus : Bool) : Parser Tree := do
  match ← within .paren g.parenthesized with
  | .whole t => return t
  | .bound b => return .phrase .object (b :: (← g.furtherBounds true ((← get).length + 1)))
  | .single t =>
    let asParens := Tree.phrase .parens [.group .paren [t]]
    if plus && atOperator "+" (← get) then
      match parenthesizedBound? t with
      | some b => return .phrase .object (b :: (← g.furtherBounds true ((← get).length + 1)))
      | none => return asParens
    else return asParens

/-- A name and a colon stand before a type. -/
def atNamed (trees : List Tree) : Bool := atOperator ":" (trees.drop 1) && !atOperator "::" (trees.drop 1)

/-- The parameter of a function type: a name may stand before its type. The first may be `self`, and is kept as it is
written when `mut` stands before that word. -/
def functionTypeParameter (first : Bool) : Parser (List Tree) := do
  let trees ← get
  if first && atWord "mut" trees && atWord "self" (trees.drop 1) then
    asWritten do
      let _ ← both anyWord anyWord
      if atNamed (trees.drop 1) then both (op ":") g.typeTrees else nothing
  else if (atIdent trees || atWord "_" trees || (first && atWord "self" trees)) && atNamed trees then
    let named ← both anyWord (op ":")
    return named ++ (← g.typeTrees)
  else g.typeTrees

/-- The trees begin with `...`, a name may stand before it. -/
def atVariadic (trees : List Tree) : Bool :=
  atOperator "..." trees
    || ((atIdent trees || atWord "_" trees) && atOperator ":" (trees.drop 1) && atOperator "..." (trees.drop 2))

/-- The parameters of a function type; `fuel` bounds their number. -/
def functionTypeParameters (first : Bool) : Nat → Parser (List Tree)
  | 0 => failure
  | fuel + 1 => do
    if ← atEnd then return []
    let lead ← g.attributes
    let trees ← get
    if atVariadic trees then
      let named ← if atOperator "..." trees then nothing else both anyWord (op ":")
      return lead ++ named ++ (← op "...") ++ (← opIf ",")
    let x ← g.functionTypeParameter first
    if ← atEnd then return lead ++ x
    let comma ← op ","
    return lead ++ x ++ comma ++ (← functionTypeParameters false fuel)

/-- The word `extern` with its name. -/
def abi : Parser (List Tree) := do
  if atWord "extern" (← get) then
    let lead ← anyWord
    if atString (← get) then return lead ++ (← string) else return lead
  else return []

/-- A function type after its binder. -/
def functionType (binder : List Tree) : Parser Tree := do
  let lead ← inOrder [wordIf "unsafe", abi, word "fn"]
  let parameters ← inside .paren (do g.functionTypeParameters true ((← get).length + 1))
  return .phrase .function (binder ++ lead ++ parameters ++ resultTrees (← g.result false))

/-- A type that begins with a path: a macro call, an object type without `dyn`, or the path. -/
def pathType (binder : List Tree) (plus : Bool) : Parser Tree := do
  let (qualified, parts) ← g.qualifiedPath false
  if qualified then return .phrase .qualified parts
  let next ← get
  if atOperator "!" next && !atOperator "!=" next && isPlain parts then
    let sign ← op "!"
    return .phrase .invocation (parts ++ sign ++ [← anyGroup])
  if !binder.isEmpty || (plus && atOperator "+" next) then
    let more ← if plus then do g.furtherBounds false (next.length + 1) else nothing
    return .phrase .object (.phrase .traitBound (binder ++ parts) :: more)
  return .phrase .typePath parts

/-- A type; several bounds joined by `+` need `plus`. -/
def typeOf (plus : Bool) : Parser Tree := do
  let front ← get
  let binder ← if atWord "for" front then g.binder else nothing
  let trees ← get
  if atWord "for" front
      && !(atIdent trees || atAnyWord ["fn", "unsafe", "extern", "super", "self", "Self", "crate"] trees) then
    failure
  if atBuiltin trees then
    let _ ← builtinCall
    return .phrase .verbatim (← readSince front)
  else if atGroup .paren trees then g.parenType plus
  else if atAnyWord ["fn", "unsafe", "extern"] trees then g.functionType binder
  else if atIdent trees || atAnyWord ["super", "self", "Self", "crate"] trees
      || atAnyOperator ["::", "<"] trees then
    g.pathType binder plus
  else if atWord "dyn" trees then
    if atOperator "*" (trees.drop 1) then
      let _ ← both anyWord (op "*")
      let bounds ← g.bounds plus false
      if hasTrait bounds then return .phrase .verbatim (← readSince trees) else failure
    else g.objectType plus
  else if atGroup .bracket trees then
    within .bracket do
      let element ← g.type true
      if atOperator ";" (← get) then
        let semi ← op ";"
        return .phrase .array [.group .bracket (element :: semi ++ (← g.exprTrees))]
      else return .phrase .slice [.group .bracket [element]]
  else if atOperator "*" trees then
    let lead ← op "*"
    let access ← if atWord "const" (← get) then anyWord else word "mut"
    return .phrase .pointer (lead ++ access ++ [← g.type false])
  else if atOperator "&" trees then
    let lead ← op "&"
    let life ← if atLifetime (← get) then lifetime else nothing
    let access ← wordIf "mut"
    return .phrase .reference (lead ++ life ++ access ++ [← g.type false])
  else if atOperator "!" trees && !atOperator "=" trees then
    return .phrase .never (← op "!")
  else if atWord "impl" trees then
    let lead ← anyWord
    let bounds ← g.bounds plus true
    if hasTrait bounds then return .phrase .implTrait (lead ++ bounds) else failure
  else if atWord "_" trees then return .phrase .infer (← anyWord)
  else if atLifetime trees then g.objectType true
  else failure

end Grammar

end ServiceContainer.Syntax
