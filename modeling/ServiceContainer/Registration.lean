import ServiceContainer.Candidate
import ServiceContainer.Diagnostic
import ServiceContainer.Lifetime

/-!
# Registrations

A candidate becomes a registration when its marker gives a lifetime, its key can be a key, and the parameters of its
constructor can be supplied. The first error ends it; a marker that disagrees with the deciding one is an error only
where conflicts are strict, and a factory method of the wrong shape is passed over.

## Main definitions

* `Argument`, `Construction`, `Registration` — what is registered
* `checkKey` — the types that can be keys
* `isProviderReference`, `sharedKey?` — the parameters that are supplied in a special way
* `Registration.ofCandidate`, `registrations` — the registrations of candidates
-/

namespace ServiceContainer

open Syntax

/-- How a parameter is supplied. -/
inductive Argument where
  /-- The shared instance of a key. -/
  | shared (key : TypeExpr)
  /-- A clone of the instance of a key. -/
  | cloned (key : TypeExpr)
  /-- The provider that was asked. -/
  | provider
  deriving Repr

/-- How an instance is made. -/
inductive Construction where
  | factory (method : String)
  | constructor (function : String) (arguments : List Argument)
  | unitLiteral
  | default
  deriving Repr

/-- The text of an argument. -/
def Argument.text : Argument → String
  | .shared key => "Rc<" ++ key.display ++ ">"
  | .cloned key => key.display
  | .provider => "&dyn ServiceProvider"

/-- The text of a construction. -/
def Construction.text : Construction → String
  | .factory method => "factory " ++ method
  | .constructor function arguments =>
    function ++ "(" ++ String.intercalate ", " (arguments.map Argument.text) ++ ")"
  | .unitLiteral => "unit literal"
  | .default => "Default::default()"

/-- A registered service. -/
structure Registration where
  key : TypeExpr
  implementation : TypeExpr
  lifetime : Lifetime
  construction : Construction
  disposable : Bool
  origin : Origin
  ambiguous : Bool
  deriving Repr

/-! ### Keys -/

/-- Why a type can be no key, if it cannot. -/
def keyFault? (key : TypeExpr) : Option String :=
  match key.category? with
  | some .qualified => some "不支持限定路径"
  | some .typePath => if key.isSelf then some "服务键不能是 `Self`" else none
  | some .object => if key.simpleName?.isSome then none else some "trait 对象缺少 trait 约束"
  | _ => some "服务键必须是类型路径或 `dyn Trait`"

/-- A key is a path other than `Self`, or an object type. -/
def checkKey (key : TypeExpr) : Except GenerationError Unit :=
  match keyFault? key with
  | some reason => .error (.invalidKey key.display reason)
  | none => .ok ()

/-! ### Parameters -/

/-- The type without one pair of parentheses. -/
def stripOneParen : Tree → Tree
  | .phrase .parens [.group .paren [t]] => t
  | t => t

/-- The bound is the trait `ServiceProvider`, by any path. -/
def isProviderBound (bound : Tree) : Bool :=
  ((boundPath? bound).bind Syntax.lastSegment?).bind word? == some "ServiceProvider"

/-- The type is a shared reference to the object type of `ServiceProvider`. -/
def isProviderReference (t : TypeExpr) : Bool :=
  match t.tree with
  | .phrase .reference parts =>
    !(parts.any fun part => atWord "mut" [part])
      && match parts.getLast?.map stripOneParen with
        | some (.phrase .object bounds) => bounds.any isProviderBound
        | _ => false
  | _ => false

/-- The type is a reference. -/
def isReference (t : TypeExpr) : Bool := t.category? == some .reference

/-- The only type argument of the type `Rc`. -/
def sharedKey? (t : TypeExpr) : Option TypeExpr :=
  if t.simpleName? == some "Rc" then
    match t.typeArguments with
    | [key] => some key
    | _ => none
  else none

/-- How a parameter of a constructor is supplied. References other than to the provider cannot be. -/
def Argument.ofParameter (d : Declaration) (p : Parameter) : Except GenerationError Argument :=
  let type := p.type.replaceSelf d.type
  if isProviderReference type then .ok .provider
  else if isReference type then
    .error (.invalidDeclaration (d.type.display ++ " 的构造函数参数 `" ++ p.name ++ ": " ++ type.display
      ++ "` 无法注入：只支持 `Rc<T>`、可克隆的值类型或 `&dyn ServiceProvider`"))
  else match sharedKey? type with
    | some key => .ok (.shared key)
    | none => .ok (.cloned type)

/-! ### Factories -/

/-- A factory takes the provider alone and returns the type that declares it. -/
def hasFactoryShape (d : Declaration) (m : Method) : Bool :=
  (m.returns.any fun returns => returns.replaceSelf d.type == d.type)
    && match m.parameters with
      | [p] => isProviderReference p.type
      | _ => false

/-- The note that a factory method is passed over. -/
def ignoredFactory (d : Declaration) (m : Method) : Diagnostic :=
  ⟨.note, d.type.display, "工厂方法 `" ++ m.name ++ "` 必须只接受一个 `&dyn ServiceProvider` 参数并返回 `"
    ++ d.type.display ++ "`，已忽略"⟩

/-- The static methods that are marked as factories. -/
def factoryMethods (d : Declaration) : List Method := d.staticMethods.filter (·.isFactory)

/-- The first of the methods with the shape of a factory; those before it are passed over with a note. -/
def chooseFactory (d : Declaration) : List Method → Noted (Option Method)
  | [] => pure none
  | m :: rest =>
    if hasFactoryShape d m then pure (some m)
    else do
      Noted.tell (ignoredFactory d m)
      chooseFactory d rest

/-- How instances of a declared type are made: by a factory, by its constructor, by its name, or by default. -/
def Construction.ofDeclaration (d : Declaration) : Noted Construction := do
  match ← chooseFactory d (factoryMethods d) with
  | some m => return .factory m.name
  | none =>
    match d.constructor with
    | some c =>
      let arguments ← Noted.ofExcept (c.parameters.mapM (Argument.ofParameter d))
      return .constructor c.name arguments
    | none => return if d.unit then .unitLiteral else .default

/-! ### Candidates -/

/-- The lifetime of the deciding marker. -/
def Candidate.lifetime (c : Candidate) : Except GenerationError Lifetime :=
  match c.primary.marker.lifetime with
  | none => .error (.missingLifetime c.declaration.type.display)
  | some name =>
    match Lifetime.ofName? name with
    | some l => .ok l
    | none => .error (.unknownLifetime c.declaration.type.display name)

/-- The markers ask for different lifetimes or different keys, as written. -/
def Marker.disagree (m n : Marker) : Bool :=
  m.lifetime != n.lifetime || m.key != n.key

/-- Some marker disagrees with the deciding one. -/
def Candidate.hasConflict (c : Candidate) : Bool :=
  c.others.any fun s => s.marker.disagree c.primary.marker

/-- The texts of all markers. -/
def Candidate.sourceList (c : Candidate) : String :=
  String.intercalate ", " (c.sources.map MarkerSource.text)

/-- The warning that markers disagree. -/
def Candidate.conflictWarning (c : Candidate) : Diagnostic :=
  ⟨.warning, c.declaration.type.display, "存在相互冲突的服务标记，采用第一条: " ++ c.sourceList⟩

/-- Markers that disagree are an error where conflicts are strict, and a warning elsewhere. -/
def Candidate.checkConflict (strict : Bool) (c : Candidate) : Noted Unit :=
  if c.hasConflict then
    if strict then Noted.fail (.conflictingMarkers c.declaration.type.display c.sourceList)
    else Noted.tell c.conflictWarning
  else pure ()

/-- The key of the deciding marker, which is the declared type where it gives none. -/
def Candidate.key (c : Candidate) : TypeExpr := c.primary.marker.key.getD c.declaration.type

/-- The registration of a candidate. -/
def Registration.ofCandidate (strict : Bool) (c : Candidate) : Noted Registration := do
  let lifetime ← Noted.ofExcept c.lifetime
  c.checkConflict strict
  Noted.ofExcept (checkKey c.key)
  let construction ← Construction.ofDeclaration c.declaration
  return { key := c.key, implementation := c.declaration.type, lifetime, construction,
           disposable := c.declaration.disposable, origin := c.primary.origin, ambiguous := c.isAmbiguous }

/-- The registrations of candidates, up to the first error. -/
def registrations (strict : Bool) : List Candidate → Noted (List Registration)
  | [] => pure []
  | c :: rest => do
    let r ← Registration.ofCandidate strict c
    let more ← registrations strict rest
    return r :: more

end ServiceContainer
