import ServiceContainer.TypeExpr

/-!
# Declarations

What a generation knows of the types of a module, however they were read.

## Main definitions

* `Marker`, `Parameter`, `Constructor`, `Method` — parts of a declaration
* `Declaration` — a declared type
* `Declaration.definitionName`, `findDeclaration?` — declarations by name
-/

namespace ServiceContainer

/-- A service marker: the lifetime as written, and the key. -/
structure Marker where
  lifetime : Option String
  key : Option TypeExpr
  deriving Repr

/-- A parameter of a function. -/
structure Parameter where
  name : String
  type : TypeExpr
  deriving Repr

/-- A function that constructs values of a type. -/
structure Constructor where
  name : String
  parameters : List Parameter
  deriving Repr

/-- A function of a type. -/
structure Method where
  name : String
  isStatic : Bool
  isFactory : Bool
  parameters : List Parameter
  returns : Option TypeExpr
  deriving Repr

/-- A declared type. -/
structure Declaration where
  type : TypeExpr
  kind : TypeKind
  /-- Declared to serve as no implementation. -/
  withheld : Bool
  /-- A struct without fields, which its name constructs. -/
  unit : Bool := false
  base : Option TypeExpr := none
  contracts : List TypeExpr := []
  disposable : Bool := false
  markers : List Marker := []
  constructor : Option Constructor := none
  methods : List Method := []
  deriving Repr

namespace Declaration

/-- A declaration of a type of which nothing else is known. -/
def ofType (type : TypeExpr) (kind : TypeKind) : Declaration :=
  { type, kind, withheld := kind = .trait }

/-- The name by which other declarations refer to the type. -/
def definitionName (d : Declaration) : String := d.type.simpleName?.getD d.type.display

/-- The type is no implementation: a trait, or declared so. -/
def isAbstract (d : Declaration) : Bool := d.withheld || d.kind = .trait

/-- The functions without a receiver. -/
def staticMethods (d : Declaration) : List Method := d.methods.filter (·.isStatic)

end Declaration

/-- The first declaration of the name that a type ends with; paths and arguments do not count. -/
def findDeclaration? (ds : List Declaration) (reference : TypeExpr) : Option Declaration := do
  let name ← reference.simpleName?
  ds.find? (·.definitionName == name)

end ServiceContainer
