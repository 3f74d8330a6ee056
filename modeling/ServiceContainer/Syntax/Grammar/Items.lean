import ServiceContainer.Syntax.Grammar.Statement

/-!
# Items

Definitions of types and implementation blocks are read into their parts, all other items into trees. An item in a
form that has no meaning where it stands, such as a function without a body, is kept as it is written.

## Main definitions

* `Grammar.signature`, `Grammar.functionOf` — functions
* `Grammar.definition`, `Grammar.implementation` — the items that declare services
* `Grammar.itemOf` — an item
* `Grammar.moduleItem` — a module with its items
-/

namespace ServiceContainer.Syntax

open ServiceContainer.Syntax.Parser

/-- The trees begin the signature of a function; the flag allows the word `safe` in place of `unsafe`. -/
def atSignature (safe : Bool) (trees : List Tree) : Bool :=
  let trees := if atWord "const" trees then trees.drop 1 else trees
  let trees := if atWord "async" trees then trees.drop 1 else trees
  let trees := if atWord "unsafe" trees || (safe && atWord "safe" trees) then trees.drop 1 else trees
  let trees :=
    if atWord "extern" trees then if atString (trees.drop 1) then trees.drop 2 else trees.drop 1 else trees
  atWord "fn" trees

/-- The trees begin a macro call. -/
def atCall (trees : List Tree) : Bool :=
  atIdent trees || atAnyWord ["self", "super", "crate"] trees || atOperator "::" trees

/-- A macro call as an item; without braces a semicolon ends it. The flag allows the name of what it defines. -/
def callItem (named : Bool) : Parser (List Tree) := do
  let lead ← both plainPath (op "!")
  let name ← if named && (atIdent (← get) || atWord "try" (← get)) then anyWord else nothing
  let braced := atGroup .brace (← get)
  let call ← anyGroup
  return lead ++ name ++ call :: (← if braced then nothing else op ";")

/-- The receiver of a function without its type; the flag says whether it is a reference. -/
def receiver : Parser (Bool × List Tree) := do
  let reference ←
    if atOperator "&" (← get) then both (op "&") (do if atLifetime (← get) then lifetime else nothing)
    else nothing
  let lead ← both (wordIf "mut") (word "self")
  if atOperator "::" (← get) then failure
  return (!reference.isEmpty, reference ++ lead)

/-- What stands between the parentheses of a function. -/
structure ParameterList where
  receiver : Bool
  parameters : List Parameter
  trees : List Tree

namespace Grammar

variable (g : Grammar)

/-- A parameter with a pattern and a type; a type alone that begins with a name and `<` has the pattern `_`. The
flag says whether it is variadic instead. -/
def typedParameter : Parser (Option Parameter × List Tree) := do
  let trees ← get
  if atIdent trees && atOperator "<" (trees.drop 1) then
    let t ← g.type true
    return (some ⟨none, t⟩, Tree.ident "_" :: operator ":" ++ [t])
  let pattern ← g.pattern
  let colon ← op ":"
  if atOperator "..." (← get) then return (none, pattern.trees ++ colon ++ (← op "..."))
  let t ← g.type true
  return (some ⟨boundName? pattern.trees, t⟩, pattern.trees ++ colon ++ [t])

/-- The parameters of a function. A receiver is the first, a variadic parameter the last; `fuel` bounds their
number. -/
def parametersUpTo (first : Bool) : Nat → Parser ParameterList
  | 0 => failure
  | fuel + 1 => do
    if ← atEnd then return ⟨false, [], []⟩
    let lead ← g.attributes
    let trees ← get
    if atOperator "..." trees then
      let dots ← op "..."
      let comma ← opIf ","
      if ← atEnd then return ⟨false, [], lead ++ dots ++ comma⟩ else failure
    match receiver trees with
    | some ((isReference, x), rest) =>
      if !first then failure
      set rest
      let type ← if !isReference && atOperator ":" rest then both (op ":") g.typeTrees else nothing
      let comma ← if ← atEnd then nothing else op ","
      let more ← parametersUpTo false fuel
      return ⟨true, more.parameters, lead ++ x ++ type ++ comma ++ more.trees⟩
    | none =>
      let (parameter, x) ← g.typedParameter
      let comma ← if ← atEnd then nothing else op ","
      if parameter.isNone && !(← atEnd) then failure
      let more ← parametersUpTo false fuel
      return ⟨false, parameter.toList ++ more.parameters, lead ++ x ++ comma ++ more.trees⟩

/-- The signature of a function. -/
def signature : Parser Signature := do
  let lead ← inOrder [wordIf "const", wordIf "async", wordIf "unsafe", abi, word "fn"]
  let name ← name
  let (_, generics) ← g.genericParameters
  let inside ← within .paren (do g.parametersUpTo true ((← get).length + 1))
  let result ← g.result true
  let conditions ← g.whereClause
  return ⟨name, inside.receiver, inside.parameters, result,
    lead ++ Tree.ident name :: generics ++ .group .paren inside.trees :: resultTrees result ++ conditions⟩

/-- The body of a function: the attributes at its front and its statements. -/
def functionBody : Parser (List Attribute × List Tree) := within .brace do
  let attributes ← g.innerAttributes
  return (attributes, ← g.statements)

/-- A function with its attributes read, if it has a body; a semicolon may stand for that. -/
def functionOf (attributes : List Attribute) (lead : List Tree) : Parser (Option Function) := do
  let signature ← g.signature
  if atOperator ";" (← get) then
    let _ ← op ";"
    return none
  let (inner, body) ← g.functionBody
  return some ⟨attributes ++ inner, lead, signature, body⟩

/-! ### Parts that items share -/

/-- What was read, or the trees since the given ones were in front as they are written. -/
def orSince (start : List Tree) (trees : Option (List Tree)) : Parser (List Tree) :=
  match trees with
  | some trees => return trees
  | none => readSince start

/-- The definition of a constant after its visibility, which has no parameters, no `where` clause and, unless
`valueless` is set, a value. -/
def constantItem (valueless : Bool) : Parser (Option (List Tree)) := do
  let lead ← word "const"
  let name ← if atWord "_" (← get) then anyWord else ident
  let generic := atOperator "<" (← get)
  let _ ← g.genericParameters
  let type ← both (op ":") g.typeTrees
  let value ← if atOperator "=" (← get) then both (op "=") g.exprTrees else nothing
  let conditional := atWord "where" (← get)
  let _ ← g.whereClause
  let semi ← op ";"
  if generic || conditional || (value.isEmpty && !valueless) then return none
  return some (lead ++ name ++ type ++ value ++ semi)

/-- The definition of an alias of a type after its visibility. -/
structure Alias where
  /-- Whether there is a colon for bounds. -/
  bounded : Bool
  /-- Whether there is a type. -/
  defined : Bool
  trees : List Tree

/-- The definition of an alias of a type after its visibility; the flags say where a `where` clause may stand. -/
def aliasItem (early late : Bool) : Parser Alias := do
  let lead ← both (word "type") ident
  let (_, generics) ← g.genericParameters
  let bounded := atOperator ":" (← get)
  let bounds ←
    if bounded then do
      let sign ← op ":"
      let stop trees := atWord "where" trees || atAnyOperator ["=", ";"] trees
      let bounds ← separated (return [← g.bound true false]) "+" stop
      pure (if bounds.isEmpty then [] else sign ++ flatten bounds)
    else nothing
  let conditional := early && atWord "where" (← get)
  let before ← if early then g.whereClause else nothing
  let value ← if atOperator "=" (← get) then both (op "=") g.typeTrees else nothing
  let after ← if late && !conditional then g.whereClause else nothing
  let semi ← op ";"
  return ⟨bounded, !value.isEmpty, lead ++ generics ++ bounds ++ before ++ value ++ after ++ semi⟩

/-- An alias that has a type and no bounds. -/
def Alias.definition? (a : Alias) : Option (List Tree) := if a.defined && !a.bounded then some a.trees else none

/-- An alias that has neither a type nor bounds. -/
def Alias.declaration? (a : Alias) : Option (List Tree) := if a.defined || a.bounded then none else some a.trees

/-- A named field. One named `_` may have fields in braces for a type, which are kept as they are written. -/
def namedField : Parser (List Tree) := do
  let lead ← both g.attributes visibility
  let unnamed := atWord "_" (← get)
  let name ← both (if unnamed then anyWord else ident) (op ":")
  let trees ← get
  if unnamed && (atWord "struct" trees || (atWord "union" trees && atGroup .brace (trees.drop 1))) then
    return lead ++ name ++ (← asWritten (both anyWord g.fields))
  else return lead ++ name ++ (← g.typeTrees)

/-- A field of a tuple. -/
def tupleField : Parser (List Tree) := inOrder [g.attributes, visibility, g.typeTrees]

/-- The braces around named fields. -/
def namedFields : Parser (List Tree) := inside .brace (commaTrees g.namedField)

/-- The parentheses around fields of a tuple. -/
def tupleFields : Parser (List Tree) := inside .paren (commaTrees g.tupleField)

/-- A variant of an enum. A visibility before it is dropped. -/
def variant : Parser (List Tree) := do
  let lead ← g.attributes
  let _ ← visibility
  let name ← ident
  let trees ← get
  let fields ←
    if atGroup .brace trees then g.namedFields
    else if atGroup .paren trees then g.tupleFields
    else nothing
  let value ← if atOperator "=" (← get) then both (op "=") g.exprTrees else nothing
  return lead ++ name ++ fields ++ value

/-! ### Definitions -/

/-- A struct after its attributes. -/
def structItem (attributes : List Attribute) : Parser Item := do
  let lead ← both visibility (word "struct")
  let name ← name
  let (generic, generics) ← g.genericParameters
  let early ← g.whereClause
  let trees ← get
  let front := lead ++ Tree.ident name :: generics
  let item unit trees := Item.definition ⟨attributes, .struct, name, generic, unit, trees, none⟩
  if atGroup .paren trees then
    if !early.isEmpty then failure
    let fields ← g.tupleFields
    let late ← g.whereClause
    return item false (front ++ fields ++ late ++ (← op ";"))
  else if atGroup .brace trees then return item false (front ++ early ++ (← g.namedFields))
  else return item true (front ++ early ++ (← op ";"))

/-- An enum after its attributes. -/
def enumItem (attributes : List Attribute) : Parser Item := do
  let lead ← both visibility (word "enum")
  let name ← name
  let (generic, generics) ← g.genericParameters
  let conditions ← g.whereClause
  let variants ← inside .brace (commaTrees g.variant)
  return .definition ⟨attributes, .enum, name, generic, false,
    lead ++ Tree.ident name :: generics ++ conditions ++ variants, none⟩

/-- A function of a trait, with or without a body. -/
def traitFunction : Parser (List Tree) := do
  let signature ← g.signature
  if atOperator ";" (← get) then return signature.trees ++ (← op ";")
  let (inner, body) ← g.functionBody
  return signature.trees ++ [.group .brace (innerTrees inner ++ body)]

/-- A member of a trait, which has neither a visibility nor `default`. -/
def traitMember : Parser (List Tree) := do
  let start ← get
  let attributes ← g.outerAttributes
  let modifiers ← both visibility (wordIf "default")
  let trees ← get
  let x : Option (List Tree) ←
    if atSignature false trees then some <$> g.traitFunction
    else if atWord "const" trees then g.constantItem true
    else if atWord "type" trees then some <$> Alias.trees <$> g.aliasItem false true
    else if modifiers.isEmpty && atCall trees then some <$> callItem false
    else failure
  orSince start (if modifiers.isEmpty then x.map (outerTrees attributes ++ ·) else none)

/-- The bounds of a trait after a colon or an equals sign. -/
def traitBounds (relaxed : Bool) (stop : List Tree → Bool) : Parser (List Tree) := do
  return flatten (← separated (return [← g.bound relaxed false]) "+" stop)

/-- A trait or an alias of a trait after its attributes. An alias is neither `unsafe` nor `auto`. -/
def traitItem (attributes : List Attribute) : Parser Item := do
  let view ← visibility
  let modifiers ← both (wordIf "unsafe") (wordIf "auto")
  let lead := view ++ modifiers ++ (← word "trait")
  let name ← name
  let (generic, generics) ← g.genericParameters
  let front := lead ++ Tree.ident name :: generics
  if modifiers.isEmpty && atOperator "=" (← get) then
    let sign ← op "="
    let bounds ← g.traitBounds false fun trees => atWord "where" trees || atOperator ";" trees
    let conditions ← g.whereClause
    return .other (outerTrees attributes ++ front ++ sign ++ bounds ++ conditions ++ (← op ";"))
  let bounds ←
    if atOperator ":" (← get) then do
      let _ ← op ":"
      pure (afterColon (← g.traitBounds true fun trees => atWord "where" trees || atGroup .brace trees))
    else nothing
  let conditions ← g.whereClause
  let (inner, body) ← within .brace do
    let inner ← g.innerAttributes
    return (inner, (← untilEnd g.traitMember).flatten)
  return .definition ⟨attributes ++ inner, .trait, name, generic, false,
    front ++ bounds ++ conditions, some body⟩

/-! ### Implementation blocks -/

/-- A member of an implementation block. -/
def implementationMember : Parser Member := do
  let start ← get
  let attributes ← g.outerAttributes
  let view ← visibility
  let modifier ←
    if atWord "default" (← get) && !atOperator "!" ((← get).drop 1) then anyWord else nothing
  let lead := view ++ modifier
  let trees ← get
  let others (x : Option (List Tree)) : Parser Member :=
    return .other (← orSince start (x.map fun x => outerTrees attributes ++ lead ++ x))
  if atSignature false trees then
    match ← g.functionOf attributes lead with
    | some f => return .function f
    | none => others none
  else if atWord "const" trees then others (← g.constantItem false)
  else if atWord "type" trees then others (← g.aliasItem false true).definition?
  else if lead.isEmpty && atCall trees then others (some (← callItem false))
  else failure

/-- Whether generic parameters follow `impl`, rather than a path in angle brackets. -/
def implementationGenerics : Parser (List Tree) := do
  if binderFollows (← get) then return (← g.genericParameters).2 else return []

/-- The inside of an implementation block. -/
def implementationBody : Parser (List Attribute × List Member) := within .brace do
  let attributes ← g.innerAttributes
  return (attributes, ← untilEnd g.implementationMember)

/-- An implementation block after its attributes, which stand after `start`. A block with a visibility or `const`, or
for a type that is no path, is kept as it is written. -/
def implementationItem (start : List Tree) (attributes : List Attribute) : Parser Item := do
  let view ← visibility
  let lead ← inOrder [wordIf "default", wordIf "unsafe", word "impl", g.implementationGenerics]
  let trees ← get
  let constant ←
    if atWord "const" trees || (atOperator "?" trees && atWord "const" (trees.drop 1)) then
      both (opIf "?") anyWord
    else nothing
  let trees ← get
  let negative := atOperator "!" trees && !atGroup .brace (trees.drop 1)
  let polarity ← if negative then op "!" else nothing
  let first ← g.type true
  let forTarget ←
    if atWord "for" (← get) then do
      let lead ← anyWord
      pure (some (lead, ← g.type true))
    else pure none
  if negative && forTarget.isNone then failure
  let conditions ← g.whereClause
  let (inner, members) ← g.implementationBody
  let isPath := match first with
    | .phrase .typePath _ => true
    | _ => false
  if !view.isEmpty || !constant.isEmpty || (forTarget.isSome && !isPath) then
    return .other (← readSince start)
  let front := lead ++ polarity ++ [first]
  let front := match forTarget with
    | some (lead, target) => front ++ lead ++ [target] ++ conditions
    | none => front ++ conditions
  let contract := forTarget.map fun _ => Contract.mk negative first
  let target := match forTarget with
    | some (_, target) => target
    | none => first
  return .implementation ⟨attributes ++ inner, front, contract, target, members⟩

/-! ### Other items -/

/-- An imported name in braces, if it does not begin with `::`; the flag allows such names. -/
def groupedImport (rooted : Bool) : Parser (Option (List Tree)) := do
  let root ← if rooted then opIf "::" else nothing
  let x ← g.imports (rooted && root.isEmpty)
  return if root.isEmpty then x else none

/-- The braces of imported names, if none of them begins with `::`; the flag allows such names. -/
def importGroup (rooted : Bool) : Parser (Option (List Tree)) := do
  let names ← within .brace (commaList (g.groupedImport rooted))
  if names.all fun (x, _) => x.isSome then
    return some [.group .brace (names.flatMap fun (x, comma) => x.getD [] ++ comma)]
  else return none

/-- A tree of imported names, if no name in its braces begins with `::`; the flag allows such names. -/
def importsOf (rooted : Bool) : Parser (Option (List Tree)) := do
  let trees ← get
  if atIdent trees || atAnyWord ["self", "super", "crate", "try"] trees then
    let x ← anyWord
    let next ← get
    if atOperator "::" next then
      let colons ← op "::"
      return (← g.imports false).map (x ++ colons ++ ·)
    else if atWord "as" next then
      let lead ← anyWord
      return some (x ++ lead ++ (← if atWord "_" (← get) then anyWord else ident))
    else return some x
  else if atOperator "*" trees then return some (← op "*")
  else g.importGroup rooted

/-- An import after its attributes. -/
def importItem : Parser (Option (List Tree)) := do
  let lead ← both visibility (word "use")
  let root ← opIf "::"
  let names ← g.imports root.isEmpty
  let semi ← op ";"
  return names.map fun names => lead ++ root ++ names ++ semi

/-- A static variable after its attributes, which has a type and a value. -/
def staticItem : Parser (Option (List Tree)) := do
  let lead ← inOrder [visibility, word "static", wordIf "mut", ident]
  let type ← if atOperator "=" (← get) then nothing else both (op ":") g.typeTrees
  let value ← if type.isEmpty || !atOperator ";" (← get) then both (op "=") g.exprTrees else nothing
  let semi ← op ";"
  return if type.isEmpty || value.isEmpty then none else some (lead ++ type ++ value ++ semi)

/-- A foreign function after its visibility, which has no body and is not `safe`. -/
def foreignFunction : Parser (Option (List Tree)) := do
  let lead ← both (wordIf "const") (wordIf "async")
  let safe ← wordIf "safe"
  let signature ← g.signature
  if atGroup .brace (← get) then
    let _ ← g.functionBody
    return none
  let semi ← op ";"
  return if safe.isEmpty then some (lead ++ signature.trees ++ semi) else none

/-- A foreign static variable after its visibility, which has no value and is neither `unsafe` nor `safe`. -/
def foreignStatic : Parser (Option (List Tree)) := do
  let unsafety ← if atAnyWord ["unsafe", "safe"] (← get) then anyWord else nothing
  let lead ← inOrder [word "static", wordIf "mut", ident, op ":", g.typeTrees]
  let value ← if atOperator "=" (← get) then both (op "=") g.exprTrees else nothing
  let semi ← op ";"
  return if unsafety.isEmpty && value.isEmpty then some (lead ++ semi) else none

/-- An item of a block of foreign items. -/
def foreignMember : Parser (List Tree) := do
  let start ← get
  let attributes ← g.outerAttributes
  let view ← visibility
  let trees ← get
  let x : Option (List Tree) ←
    if atSignature true trees then g.foreignFunction
    else if atWord "static" trees
        || (atAnyWord ["unsafe", "safe"] trees && atWord "static" (trees.drop 1)) then
      g.foreignStatic
    else if atWord "type" trees then Alias.declaration? <$> g.aliasItem true true
    else if view.isEmpty && atCall trees then some <$> callItem false
    else failure
  orSince start (x.map fun x => outerTrees attributes ++ view ++ x)

/-- A block of foreign items after its attributes. -/
def foreignItem (attributes : List Attribute) : Parser (List Tree) := do
  let lead ← both (wordIf "unsafe") abi
  let (inner, body) ← within .brace do
    let inner ← g.innerAttributes
    return (inner, (← untilEnd g.foreignMember).flatten)
  return outerTrees attributes ++ lead ++ [.group .brace (innerTrees inner ++ body)]

/-- A crate as an item after its attributes. -/
def crateItem : Parser (List Tree) := do
  let lead ← inOrder [visibility, word "extern", word "crate"]
  let name ← if atWord "self" (← get) then anyWord else ident
  let rename ←
    if atWord "as" (← get) then both anyWord (do if atWord "_" (← get) then anyWord else ident)
    else nothing
  return lead ++ name ++ rename ++ (← op ";")

/-- A module after its attributes. -/
def moduleAfter (attributes : List Attribute) : Parser ModuleItem := do
  let lead ← inOrder [visibility, wordIf "unsafe", word "mod"]
  let name ← if atWord "try" (← get) then anyWord else ident
  if atOperator ";" (← get) then
    let _ ← op ";"
    return ⟨attributes, lead ++ name, none⟩
  let (inner, items) ← within .brace do
    let inner ← g.innerAttributes
    return (inner, ← untilEnd g.item)
  return ⟨attributes ++ inner, lead ++ name, some items⟩

/-- A module with its attributes. -/
def moduleItem : Parser ModuleItem := do g.moduleAfter (← g.outerAttributes)

/-- A macro definition by the word of that name, which is kept as it is written. -/
def definedMacro : Parser (Option (List Tree)) := do
  let _ ← inOrder [visibility, anyWord, ident]
  if atGroup .paren (← get) then let _ ← anyGroup
  let _ ← groupInner .brace
  return none

/-- A union after its attributes. -/
def unionItem : Parser (List Tree) := do
  let lead ← inOrder [visibility, word "union", ident]
  let (_, generics) ← g.genericParameters
  let conditions ← g.whereClause
  return lead ++ generics ++ conditions ++ (← g.namedFields)

/-- An item. -/
def itemOf : Parser Item := do
  let start ← get
  let attributes ← g.outerAttributes
  let kept (p : Parser (Option (List Tree))) : Parser Item :=
    return .other (← orSince start ((← p).map (outerTrees attributes ++ ·)))
  let others (p : Parser (List Tree)) : Parser Item := kept (some <$> p)
  let trees ← get
  let ahead := (visibility trees).elim [] (·.2)
  let inherited := ahead.length == trees.length
  let next := ahead.drop 1
  if atSignature false ahead then
    let view ← visibility
    return .other (← orSince start ((← g.functionOf attributes view).map Function.trees))
  else if atWord "extern" ahead then
    if atWord "crate" next then others crateItem
    else if atGroup .brace next || (atString next && atGroup .brace (next.drop 1)) then
      return .other (← g.foreignItem attributes)
    else failure
  else if atWord "use" ahead then kept g.importItem
  else if atWord "static" ahead then kept g.staticItem
  else if atWord "const" ahead then kept do
    let view ← visibility
    return (← g.constantItem false).map (view ++ ·)
  else if atWord "unsafe" ahead then
    if atWord "trait" next || (atWord "auto" next && atWord "trait" (next.drop 1)) then
      g.traitItem attributes
    else if atWord "impl" next then g.implementationItem start attributes
    else if atWord "extern" next then return .other (← g.foreignItem attributes)
    else if atWord "mod" next then return .other (← g.moduleAfter attributes).trees
    else failure
  else if atWord "mod" ahead then return .other (← g.moduleAfter attributes).trees
  else if atWord "type" ahead then kept do
    let view ← visibility
    return (← g.aliasItem true false).definition?.map (view ++ ·)
  else if atWord "struct" ahead then g.structItem attributes
  else if atWord "enum" ahead then g.enumItem attributes
  else if atWord "union" ahead && atIdent next then others g.unionItem
  else if atWord "trait" ahead || (atWord "auto" ahead && atWord "trait" next) then g.traitItem attributes
  else if atWord "impl" ahead || (atWord "default" ahead && !atOperator "!" next) then
    g.implementationItem start attributes
  else if atWord "macro" ahead then kept definedMacro
  else if inherited && atCall ahead then others (callItem true)
  else failure

end Grammar

end ServiceContainer.Syntax
