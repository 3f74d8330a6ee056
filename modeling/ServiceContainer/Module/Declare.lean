import ServiceContainer.Manifest
import ServiceContainer.Module.Marker

/-!
# Declarations of a module

Definitions of types declare these; their attributes are markers, base types, and the word that they serve as no
implementation. Implementation blocks add what they say to the first type of their name.

## Main definitions

* `Definition.declaration` — the declaration that a definition is
* `Implementation.addTo` — what an implementation block adds to a declaration
* `declarationsOf` — the declarations of the items of a module
-/

namespace ServiceContainer

namespace Syntax

/-- The declaration with what an attribute says about it. -/
def Attribute.addTo (a : Attribute) (d : Declaration) : Except ModuleError Declaration := do
  match a.name? with
  | some "service" => return { d with markers := d.markers ++ [← Marker.ofAttribute a.body] }
  | some "extends" =>
    if d.base.isSome then throw .repeatedBase
    match a.body.form with
    | .list _ arguments =>
      match readTrees? (·.type true) arguments with
      | some type => return { d with base := some ⟨type⟩ }
      | none => throw .malformed
    | _ => throw .malformed
  | some "abstract_service" =>
    match a.body.form with
    | .bare => return { d with withheld := true }
    | _ => throw .malformed
  | _ => return d

/-- The declaration that a definition is. One with type parameters serves as no implementation. -/
def Definition.declaration (d : Definition) : Except ModuleError Declaration :=
  let start := Declaration.ofType (.ofName d.name) d.kind
  d.attributes.foldlM (fun declaration a => a.addTo declaration)
    { start with unit := d.unit, withheld := start.withheld || d.generic }

/-- The function as a method of a type. -/
def Function.method (owner : TypeExpr) (f : Function) : Method where
  name := f.signature.name
  isStatic := !f.signature.receiver
  isFactory := f.attributes.any (·.name? == some "factory")
  parameters := f.signature.parameters.map fun p =>
    ⟨p.name.getD "_", TypeExpr.replaceSelf ⟨p.type⟩ owner⟩
  returns := f.signature.returns.map fun t => TypeExpr.replaceSelf ⟨t⟩ owner

end Syntax

open Syntax (Implementation Item Member)

/-- The method constructs values of a type: it returns the type, and is no factory. -/
def Method.constructs (m : Method) (owner : TypeExpr) : Bool :=
  m.isStatic && !m.isFactory && m.returns.any (· == owner)

/-- The declaration with one more method. The first that constructs its values is its constructor. -/
def Declaration.addMethod (d : Declaration) (m : Method) : Declaration :=
  { d with
    methods := d.methods ++ [m]
    constructor := match d.constructor with
      | some c => some c
      | none => if m.constructs d.type then some ⟨m.name, m.parameters⟩ else none }

/-- The declaration with one more contract. -/
def Declaration.addContract (d : Declaration) (contract : TypeExpr) : Declaration :=
  if isDisposableContract contract then { d with disposable := true }
  else if d.contracts.any (· == contract) then d
  else { d with contracts := d.contracts ++ [contract] }

/-- What a member of an implementation block adds to a declaration. -/
def Syntax.Member.addTo (m : Member) (d : Declaration) : Declaration :=
  match m with
  | .function f => d.addMethod (f.method d.type)
  | .other _ => d

/-- What an implementation block adds to the declaration of its type: a contract, or its functions. -/
def Syntax.Implementation.addTo (i : Implementation) (d : Declaration) : Declaration :=
  match i.contract with
  | some c => if c.negative then d else d.addContract ⟨c.type⟩
  | none => i.members.foldl (fun d m => m.addTo d) d

/-- Changes the first element for which the test holds. -/
def updateFirst {α : Type} (test : α → Bool) (f : α → α) : List α → List α
  | [] => []
  | x :: rest => if test x then f x :: rest else x :: updateFirst test f rest

/-- The declaration is a type that implementation blocks of a name are for. -/
def Declaration.isTargetOf (name : String) (d : Declaration) : Bool :=
  d.kind != .trait && d.definitionName == name

/-- The declarations with what an item adds to them. -/
def Syntax.Item.addTo (i : Item) (ds : List Declaration) : List Declaration :=
  match i with
  | .implementation block =>
    match TypeExpr.simpleName? ⟨block.target⟩ with
    | some name => updateFirst (·.isTargetOf name) block.addTo ds
    | none => ds
  | _ => ds

/-- The declaration that an item is, if it is one. -/
def Syntax.Item.declaration? (i : Item) : Except ModuleError (Option Declaration) :=
  match i with
  | .definition d => d.declaration.map some
  | _ => .ok none

/-- The declarations of items. -/
def declarationsOf (items : List Item) : Except ModuleError (List Declaration) := do
  let declared ← items.mapM Syntax.Item.declaration?
  return items.foldl (fun ds i => i.addTo ds) (declared.filterMap id)

end ServiceContainer
