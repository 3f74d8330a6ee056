import ServiceContainer.Container
import ServiceContainer.Naming
import ServiceContainer.Options

/-!
# The layout of a container

Registrations are divided between the two providers, and each gets the members of its service. Two registrations of
one key, or two of one identifier in a provider, cannot be laid out; one identifier in both providers is only
suspicious, since the two keys may be one type.

## Main definitions

* `checkUniqueKeys`, `checkSharedIdentifiers` — the checks before the layout
* `Provider.add`, `Provider.build` — the members of a provider
* `Container.ofRegistrations` — the layout
-/

namespace ServiceContainer

/-! ### Checks -/

/-- The first registration whose key a registration before it has, with the last such one before it. -/
def repeatedKey? (before : List Registration) : List Registration → Option (Registration × Registration)
  | [] => none
  | r :: rest =>
    match before.find? (·.key == r.key) with
    | some first => some (first, r)
    | none => repeatedKey? (r :: before) rest

/-- No key is registered twice. -/
def checkUniqueKeys (rs : List Registration) : Except GenerationError Unit :=
  match repeatedKey? [] rs with
  | some (first, second) =>
    .error (.duplicateKey second.key.display first.implementation.display second.implementation.display)
  | none => .ok ()

/-- A registration with the identifier of its key. -/
structure Identified where
  identifier : String
  registration : Registration

/-- The registration with the identifier of its key. -/
def Identified.ofRegistration (r : Registration) : Except GenerationError Identified := do
  return ⟨← serviceIdentifier r.key, r⟩

/-- The warning that a scoped key may shadow a key of the root provider. -/
def shadowWarning (identifier : String) (inScope inRoot : Registration) : Diagnostic :=
  ⟨.warning, inScope.implementation.display,
    "作用域服务键 `" ++ inScope.key.display ++ "` 与根服务键 `" ++ inRoot.key.display ++ "` 生成相同的标识符 `"
      ++ identifier ++ "`；若二者是同一类型，作用域内的实例会遮蔽根实例"⟩

/-- Warns of each scoped registration whose identifier a root registration has too. -/
def warnShadowing (inRoot : List Identified) : List Registration → Noted Unit
  | [] => pure ()
  | r :: rest => do
    let x ← Noted.ofExcept (Identified.ofRegistration r)
    match inRoot.find? (·.identifier == x.identifier) with
    | some first => Noted.tell (shadowWarning x.identifier r first.registration)
    | none => pure ()
    warnShadowing inRoot rest

/-- Warns of identifiers that both providers have. -/
def checkSharedIdentifiers (inRoot inScope : List Registration) : Noted Unit := do
  let identified ← Noted.ofExcept (inRoot.mapM Identified.ofRegistration)
  warnShadowing identified inScope

/-! ### Members -/

/-- How the instance of a registration is made. The names it uses have to be identifiers. -/
def Construct.ofRegistration (r : Registration) : Except GenerationError Construct :=
  match r.construction with
  | .factory method => return .factory r.implementation (← identifier method)
  | .constructor function arguments =>
    return .constructor r.implementation (← identifier function) arguments
  | .unitLiteral => return .unitLiteral r.implementation
  | .default => return .default r.implementation

/-- The provider with the members of one more service. -/
def Provider.add (p : Provider) (id : String) (r : Registration) : Except GenerationError Provider := do
  let accessor ← identifier (accessorName id)
  let construct ← Construct.ofRegistration r
  let lookups := p.lookups ++ [⟨r.key, accessor⟩]
  if r.lifetime.isMemoized then
    let cell ← identifier (cellName id)
    return { p with
      cells := p.cells ++ [⟨cell, r.implementation⟩]
      disposals := if r.disposable then p.disposals ++ [cell] else p.disposals
      lookups
      accessors := p.accessors ++ [⟨accessor, r.key, .memoized cell r.implementation construct⟩] }
  else
    return { p with
      lookups
      accessors := p.accessors ++ [⟨accessor, r.key, .fresh r.implementation construct⟩] }

/-- The provider with the members of further services; `before` are those it has. An identifier that one of them has
cannot be had again. -/
def Provider.addAll (p : Provider) (before : List Identified) :
    List Registration → Except GenerationError Provider
  | [] => return p
  | r :: rest => do
    let id ← serviceIdentifier r.key
    match before.find? (·.identifier == id) with
    | some first =>
      throw (.identifierCollision id p.name first.registration.key.display r.key.display)
    | none => Provider.addAll (← p.add id r) (⟨id, r⟩ :: before) rest

/-- The provider of a kind and a name for the registrations. -/
def Provider.build (kind : ProviderKind) (text : String) (rs : List Registration) :
    Except GenerationError Provider := do
  let name ← identifier text
  Provider.addAll { kind, name, state := some (stateName name) } [] rs

/-! ### Layout -/

/-- The registrations of the root provider. -/
def rootRegistrations (rs : List Registration) : List Registration := rs.filter (·.lifetime.belongsToRoot)

/-- The registrations of the scoped provider. -/
def scopedRegistrations (rs : List Registration) : List Registration := rs.filter (!·.lifetime.belongsToRoot)

/-- The path of the runtime library. -/
def runtimePath (text : String) : Except GenerationError (List Syntax.Tree) :=
  match Syntax.readPath? text with
  | some path => .ok path
  | none => .error (.badRuntimePath text)

/-- The providers of the registrations, and the names around them. -/
def Container.layOut (o : Options) (rs : List Registration) : Except GenerationError Container := do
  let root ← Provider.build .root o.rootName (rootRegistrations rs)
  let nested ← Provider.build .scoped o.scopedName (scopedRegistrations rs)
  let runtime ← runtimePath o.runtimePath
  return ⟨← identifier o.moduleName, runtime, root, nested⟩

/-- The container of the registrations. -/
def Container.ofRegistrations (o : Options) (rs : List Registration) : Noted Container := do
  Noted.ofExcept (checkUniqueKeys rs)
  checkSharedIdentifiers (rootRegistrations rs) (scopedRegistrations rs)
  Noted.ofExcept (Container.layOut o rs)

end ServiceContainer
