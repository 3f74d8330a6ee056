import ServiceContainer.Syntax.Item

/-!
# Modules without helper attributes

## Main definitions

* `helperAttributes` — the attributes that only the generation reads
* `Item.stripped` — an item without them
-/

namespace ServiceContainer.Syntax

/-- The attributes that only the generation reads. -/
def helperAttributes : List String := ["service", "factory", "extends", "abstract_service"]

/-- The attribute is one that only the generation reads. -/
def Attribute.isHelper (a : Attribute) : Bool := a.name?.any helperAttributes.contains

/-- Attributes without helpers. -/
def strippedAttributes (attributes : List Attribute) : List Attribute := attributes.filter (!·.isHelper)

/-- A member without helper attributes. Only functions may have some. -/
def Member.stripped : Member → Member
  | .function f => .function { f with attributes := strippedAttributes f.attributes }
  | .other trees => .other trees

/-- An item without helper attributes, which definitions and functions of implementation blocks may have. -/
def Item.stripped : Item → Item
  | .definition d => .definition { d with attributes := strippedAttributes d.attributes }
  | .implementation i => .implementation { i with members := i.members.map Member.stripped }
  | .other trees => .other trees

end ServiceContainer.Syntax
