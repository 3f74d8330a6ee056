import ServiceContainer.Declaration
import ServiceContainer.Json.Reader
import ServiceContainer.Options.Decode
import ServiceContainer.Toml.Reader

/-!
# Manifests

A manifest describes the declarations of a module by texts, and has options besides.

## Main definitions

* `MarkerEntry`, `ConstructorEntry`, `MethodEntry`, `TypeEntry`, `Manifest` — the entries of a manifest
* `Manifest.decode`, `Manifest.document` — manifests as documents
* `Manifest.declarations` — the declarations that a manifest describes
-/

namespace ServiceContainer

open Document (decodeText decodeBoolean decodeOptional decodeList)

/-- The entry of a marker. -/
structure MarkerEntry where
  lifetime : Option String := none
  key : Option String := none
  deriving DecidableEq, Repr

/-- The entry of a constructor: its name and the types of its parameters. -/
structure ConstructorEntry where
  name : String := "new"
  parameters : List String := []
  deriving DecidableEq, Repr

/-- The entry of a method: its name and the types of its signature. -/
structure MethodEntry where
  name : String
  isStatic : Bool := true
  isFactory : Bool := false
  parameters : List String := []
  returns : Option String := none
  deriving DecidableEq, Repr

/-- The entry of a type. -/
structure TypeEntry where
  name : String
  isTrait : Bool := false
  isEnum : Bool := false
  isAbstract : Bool := false
  unit : Bool := false
  base : Option String := none
  contracts : List String := []
  disposable : Bool := false
  markers : List MarkerEntry := []
  constructor : Option ConstructorEntry := none
  methods : List MethodEntry := []
  deriving DecidableEq, Repr

/-- A manifest. -/
structure Manifest where
  options : Options := {}
  types : List TypeEntry := []
  deriving DecidableEq, Repr

/-! ### Decoding -/

/-- Texts that may be absent. -/
def decodeOptionalText : Document → Decoded (Option String) := decodeOptional decodeText

/-- A list of texts. -/
def decodeTexts : Document → Decoded (List String) := decodeList decodeText

variable (exact : Bool)

/-- The fields of a marker. -/
def MarkerEntry.shape : RecordShape MarkerEntry where
  fields :=
    [⟨"lifetime", false, fun d m => do return { m with lifetime := ← decodeOptionalText d }⟩,
     ⟨"key", false, fun d m => do return { m with key := ← decodeOptionalText d }⟩]
  closed := true
  exact := exact
  start := {}

/-- The fields of a constructor. -/
def ConstructorEntry.shape : RecordShape ConstructorEntry where
  fields :=
    [⟨"name", false, fun d c => do return { c with name := ← decodeText d }⟩,
     ⟨"params", false, fun d c => do return { c with parameters := ← decodeTexts d }⟩]
  closed := true
  exact := exact
  start := {}

/-- The fields of a method. -/
def MethodEntry.shape : RecordShape MethodEntry where
  fields :=
    [⟨"name", true, fun d m => do return { m with name := ← decodeText d }⟩,
     ⟨"static", false, fun d m => do return { m with isStatic := ← decodeBoolean d }⟩,
     ⟨"factory", false, fun d m => do return { m with isFactory := ← decodeBoolean d }⟩,
     ⟨"params", false, fun d m => do return { m with parameters := ← decodeTexts d }⟩,
     ⟨"returns", false, fun d m => do return { m with returns := ← decodeOptionalText d }⟩]
  closed := true
  exact := exact
  start := { name := "" }

/-- The fields of a type. -/
def TypeEntry.shape : RecordShape TypeEntry where
  fields :=
    [⟨"name", true, fun d t => do return { t with name := ← decodeText d }⟩,
     ⟨"trait", false, fun d t => do return { t with isTrait := ← decodeBoolean d }⟩,
     ⟨"enum", false, fun d t => do return { t with isEnum := ← decodeBoolean d }⟩,
     ⟨"abstract", false, fun d t => do return { t with isAbstract := ← decodeBoolean d }⟩,
     ⟨"unit", false, fun d t => do return { t with unit := ← decodeBoolean d }⟩,
     ⟨"base", false, fun d t => do return { t with base := ← decodeOptionalText d }⟩,
     ⟨"contracts", false, fun d t => do return { t with contracts := ← decodeTexts d }⟩,
     ⟨"disposable", false, fun d t => do return { t with disposable := ← decodeBoolean d }⟩,
     ⟨"markers", false, fun d t => do
        return { t with markers := ← decodeList (MarkerEntry.shape exact).decode d }⟩,
     ⟨"constructor", false, fun d t => do
        return { t with constructor := ← decodeOptional (ConstructorEntry.shape exact).decode d }⟩,
     ⟨"methods", false, fun d t => do
        return { t with methods := ← decodeList (MethodEntry.shape exact).decode d }⟩]
  closed := true
  exact := exact
  start := { name := "" }

/-- The fields of a manifest, which may have others. -/
def Manifest.shape : RecordShape Manifest where
  fields :=
    [⟨"generator", false, fun d m => do return { m with options := ← (Options.shape exact).decode d }⟩,
     ⟨"types", false, fun d m => do return { m with types := ← decodeList (TypeEntry.shape exact).decode d }⟩]
  closed := false
  exact := exact
  start := {}

/-- The manifest that a text in JSON is. What follows the document is a fault only of a document without any. -/
def Manifest.ofJson (text : String) : Except ConfigError Manifest :=
  let (d, ended) := Json.read text
  match (Manifest.shape true).decode d with
  | .ok m => if ended then .ok m else .error (.unparsable .malformed)
  | .error defect => .error (.unparsable defect)

/-- The manifest that a text in TOML is. -/
def Manifest.ofToml (text : String) : Except ConfigError Manifest :=
  match Toml.read? text with
  | some d => ((Manifest.shape false).decode d).mapError .unparsable
  | none => .error (.unparsable .malformed)

/-! ### Manifests as documents -/

/-- A list of texts. -/
def textsDocument (texts : List String) : Document := .list (texts.map .text)

/-- The entry of a marker as a document. -/
def MarkerEntry.document (m : MarkerEntry) : Document := .record
  [("lifetime", .optional m.lifetime), ("key", .optional m.key)]

/-- The entry of a constructor as a document. -/
def ConstructorEntry.document (c : ConstructorEntry) : Document := .record
  [("name", .text c.name), ("params", textsDocument c.parameters)]

/-- The entry of a method as a document. -/
def MethodEntry.document (m : MethodEntry) : Document := .record
  [("name", .text m.name), ("static", .boolean m.isStatic), ("factory", .boolean m.isFactory),
   ("params", textsDocument m.parameters), ("returns", .optional m.returns)]

/-- The entry of a type as a document. -/
def TypeEntry.document (t : TypeEntry) : Document := .record
  [("name", .text t.name), ("trait", .boolean t.isTrait), ("enum", .boolean t.isEnum),
   ("abstract", .boolean t.isAbstract), ("unit", .boolean t.unit), ("base", .optional t.base),
   ("contracts", textsDocument t.contracts), ("disposable", .boolean t.disposable),
   ("markers", .list (t.markers.map MarkerEntry.document)),
   ("constructor", match t.constructor with
      | some c => c.document
      | none => .null),
   ("methods", .list (t.methods.map MethodEntry.document))]

/-- A manifest as a document. -/
def Manifest.document (m : Manifest) : Document := .record
  [("generator", m.options.document), ("types", .list (m.types.map TypeEntry.document))]

/-! ### Declarations -/

/-- The type of an entry, which has to be a path. -/
def TypeEntry.type (t : TypeEntry) : Except GenerationError TypeExpr := do
  let type ← TypeExpr.ofText t.name
  let isPath := type.category? == some .typePath || type.category? == some .qualified
  if isPath && type.simpleName?.isSome then return type
  else throw (.invalidDeclaration ("类型名必须是路径: `" ++ t.name ++ "`"))

/-- The kind of an entry, which is no trait and enum at once. -/
def TypeEntry.kind (t : TypeEntry) : Except GenerationError TypeKind :=
  match t.isTrait, t.isEnum with
  | true, false => .ok .trait
  | false, true => .ok .enum
  | false, false => .ok .struct
  | true, true => .error (.invalidDeclaration ("`" ++ t.name ++ "` 不能同时是 trait 和 enum"))

/-- The type that a text is, if there is one. -/
def optionalType : Option String → Except GenerationError (Option TypeExpr)
  | some text => return some (← TypeExpr.ofText text)
  | none => return none

/-- The parameters of the given types, from a position on, with `Self` replaced. -/
def parametersOf (owner : TypeExpr) (position : Nat) : List String → Except GenerationError (List Parameter)
  | [] => return []
  | text :: rest => do
    let type ← TypeExpr.ofText text
    let more ← parametersOf owner (position + 1) rest
    return ⟨"arg" ++ toString position, type.replaceSelf owner⟩ :: more

/-- The marker of an entry. -/
def MarkerEntry.marker (m : MarkerEntry) : Except GenerationError Marker :=
  return ⟨m.lifetime, ← optionalType m.key⟩

/-- The method of an entry. The type that it returns comes before the parameters. -/
def MethodEntry.method (owner : TypeExpr) (m : MethodEntry) : Except GenerationError Method := do
  let returns ← optionalType m.returns
  let parameters ← parametersOf owner 0 m.parameters
  return ⟨m.name, m.isStatic, m.isFactory, parameters, returns.map (·.replaceSelf owner)⟩

/-- The constructor of an entry. -/
def ConstructorEntry.constructor (owner : TypeExpr) (c : ConstructorEntry) :
    Except GenerationError Constructor :=
  return ⟨c.name, ← parametersOf owner 0 c.parameters⟩

/-- The contract that makes a type disposable. -/
def isDisposableContract (contract : TypeExpr) : Bool := contract.simpleName? == some "Disposable"

/-- The constructor of an entry that may have none. -/
def optionalConstructor (owner : TypeExpr) :
    Option ConstructorEntry → Except GenerationError (Option Constructor)
  | some c => return some (← c.constructor owner)
  | none => return none

/-- The declaration of an entry. -/
def TypeEntry.declaration (t : TypeEntry) : Except GenerationError Declaration := do
  let type ← t.type
  let kind ← t.kind
  let base ← optionalType t.base
  let contracts ← t.contracts.mapM TypeExpr.ofText
  let markers ← t.markers.mapM MarkerEntry.marker
  let constructor ← optionalConstructor type t.constructor
  let methods ← t.methods.mapM (MethodEntry.method type)
  return { type, kind, withheld := kind = .trait || t.isAbstract, unit := t.unit, base,
           contracts := contracts.filter (!isDisposableContract ·),
           disposable := t.disposable || contracts.any isDisposableContract,
           markers, constructor, methods }

/-- The declarations that a manifest describes, in its order. -/
def Manifest.declarations (m : Manifest) : Except GenerationError (List Declaration) :=
  m.types.mapM TypeEntry.declaration

end ServiceContainer
