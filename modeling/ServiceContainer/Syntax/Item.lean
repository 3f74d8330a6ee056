import ServiceContainer.Syntax.Tree
import ServiceContainer.TypeKind

/-!
# Items

The items of a module, as far as service declarations depend on them: definitions of types, implementation blocks
with their functions, and attributes. Everything else is kept as trees. An item prints as it was written.

## Main definitions

* `Attribute`, `AttributeForm` — attributes
* `Signature`, `Function`, `Member`, `Implementation` — implementation blocks
* `Definition`, `Item` — the items
* `Item.trees` — the trees of an item
-/

namespace ServiceContainer.Syntax

/-- What follows the path of an attribute. -/
inductive AttributeForm where
  | bare
  | list (delimiter : Delimiter) (arguments : List Tree)
  | value (trees : List Tree)
  deriving Repr

/-- The path of an attribute and what follows it. -/
structure AttributeBody where
  path : List Tree
  form : AttributeForm
  deriving Repr

/-- The name of an attribute whose path is a single word. -/
def AttributeBody.name? (body : AttributeBody) : Option String :=
  match body.path with
  | [.token (.ident text)] => some text
  | _ => none

/-- The trees inside the brackets of an attribute. -/
def AttributeBody.trees (body : AttributeBody) : List Tree :=
  body.path ++ match body.form with
    | .bare => []
    | .list d arguments => [.group d arguments]
    | .value trees => operator "=" ++ trees

/-- An attribute; an inner one belongs to the item that encloses it. -/
structure Attribute where
  inner : Bool
  body : AttributeBody
  deriving Repr

/-- The name of an attribute whose path is a single word. -/
def Attribute.name? (a : Attribute) : Option String := a.body.name?

/-- The trees of an attribute. -/
def Attribute.trees (a : Attribute) : List Tree :=
  operator "#" ++ (if a.inner then operator "!" else []) ++ [.group .bracket a.body.trees]

/-- The trees of the attributes that stand before an item. -/
def outerTrees (attributes : List Attribute) : List Tree :=
  (attributes.filter fun a => !a.inner).flatMap Attribute.trees

/-- The trees of the attributes that stand inside the braces of an item. -/
def innerTrees (attributes : List Attribute) : List Tree :=
  (attributes.filter fun a => a.inner).flatMap Attribute.trees

/-- A parameter of a function: its name, if its pattern is one, and its type. -/
structure Parameter where
  name : Option String
  type : Tree
  deriving Repr

/-- The signature of a function and its trees. -/
structure Signature where
  name : String
  receiver : Bool
  parameters : List Parameter
  returns : Option Tree
  trees : List Tree
  deriving Repr

/-- A function of an implementation block; `lead` stands between the attributes and the signature. -/
structure Function where
  attributes : List Attribute
  lead : List Tree
  signature : Signature
  body : List Tree
  deriving Repr

/-- The trees of a function. -/
def Function.trees (f : Function) : List Tree :=
  outerTrees f.attributes ++ f.lead ++ f.signature.trees
    ++ [.group .brace (innerTrees f.attributes ++ f.body)]

/-- A member of an implementation block. -/
inductive Member where
  | function (function : Function)
  | other (trees : List Tree)
  deriving Repr

/-- The trees of a member. -/
def Member.trees : Member → List Tree
  | .function f => f.trees
  | .other trees => trees

/-- The trait that an implementation block is for; `negative` when it denies it. -/
structure Contract where
  negative : Bool
  type : Tree
  deriving Repr

/-- An implementation block; `lead` stands between the attributes and the braces. -/
structure Implementation where
  attributes : List Attribute
  lead : List Tree
  contract : Option Contract
  target : Tree
  members : List Member
  deriving Repr

/-- The trees of an implementation block. -/
def Implementation.trees (i : Implementation) : List Tree :=
  outerTrees i.attributes ++ i.lead
    ++ [.group .brace (innerTrees i.attributes ++ i.members.flatMap Member.trees)]

/-- The definition of a type; `lead` stands after the attributes, and a trait has its body besides. -/
structure Definition where
  attributes : List Attribute
  kind : TypeKind
  name : String
  generic : Bool
  unit : Bool
  lead : List Tree
  body : Option (List Tree)
  deriving Repr

/-- The trees of a definition. -/
def Definition.trees (d : Definition) : List Tree :=
  outerTrees d.attributes ++ d.lead ++ match d.body with
    | some body => [.group .brace (innerTrees d.attributes ++ body)]
    | none => []

/-- An item of a module. -/
inductive Item where
  | definition (definition : Definition)
  | implementation (implementation : Implementation)
  | other (trees : List Tree)
  deriving Repr

/-- The trees of an item. -/
def Item.trees : Item → List Tree
  | .definition d => d.trees
  | .implementation i => i.trees
  | .other trees => trees

/-- A module item; a module without braces has no items of its own. -/
structure ModuleItem where
  attributes : List Attribute
  lead : List Tree
  items : Option (List Item)
  deriving Repr

/-- The trees of a module item. -/
def ModuleItem.trees (m : ModuleItem) : List Tree :=
  outerTrees m.attributes ++ m.lead ++ match m.items with
    | some items => [.group .brace (innerTrees m.attributes ++ items.flatMap Item.trees)]
    | none => operator ";"

end ServiceContainer.Syntax
