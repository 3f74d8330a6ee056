import ServiceContainer.Registration

/-!
# Containers

A container is two providers. The root provider keeps singletons and makes transients; the scoped provider keeps the
instances of a scope and passes every other request on to its parent.

## Main definitions

* `Construct` — how an instance is made in a provider
* `Body`, `Accessor`, `Lookup`, `Cell` — the members of a provider
* `Provider`, `Container` — the providers
-/

namespace ServiceContainer

/-- How an instance of a type is made. -/
inductive Construct where
  | factory (implementation : TypeExpr) (method : String)
  | constructor (implementation : TypeExpr) (function : String) (arguments : List Argument)
  | unitLiteral (implementation : TypeExpr)
  | default (implementation : TypeExpr)
  deriving Repr

/-- How a service is delivered: from its cell, which is filled first if it is empty, or newly made. -/
inductive Body where
  | memoized (cell : String) (implementation : TypeExpr) (construct : Construct)
  | fresh (implementation : TypeExpr) (construct : Construct)
  deriving Repr

/-- The function of a provider that delivers a service. -/
structure Accessor where
  name : String
  key : TypeExpr
  body : Body
  deriving Repr

/-- The cell that keeps an instance. -/
structure Cell where
  name : String
  implementation : TypeExpr
  deriving Repr

/-- A request for a key is answered by an accessor. -/
structure Lookup where
  key : TypeExpr
  accessor : String
  deriving Repr

/-- What a provider does with a request for a key that it does not have: nothing, or its parent answers. -/
inductive ProviderKind where
  | root | scoped
  deriving DecidableEq, Repr

/-- A provider. -/
structure Provider where
  kind : ProviderKind
  name : String
  /-- The type that holds the cells; without one it is named after the provider. -/
  state : Option String
  cells : List Cell := []
  accessors : List Accessor := []
  lookups : List Lookup := []
  /-- The cells whose instances are disposed of, in this order. -/
  disposals : List String := []
  deriving Repr

/-- The name without the mark of a raw identifier. -/
def unrawName (name : String) : String :=
  if "r#".toList.isPrefixOf name.toList then String.ofList (name.toList.drop 2) else name

/-- The type that holds the cells of a provider, named after the provider. -/
def stateName (provider : String) : String := unrawName provider ++ "State"

/-- The type that holds the cells. -/
def Provider.stateType (p : Provider) : String := p.state.getD (stateName p.name)

/-- A container: its module, the path of the library it uses, and its providers. -/
structure Container where
  moduleName : String
  runtime : List Syntax.Tree
  rootProvider : Provider
  scopedProvider : Provider
  deriving Repr

end ServiceContainer
