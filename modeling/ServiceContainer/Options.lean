import ServiceContainer.Error
import ServiceContainer.Syntax.Reader

/-!
# Options

## Main definitions

* `Options` — the options of a generation
* `Options.validate` — the options that name things that can be named
-/

namespace ServiceContainer

/-- The options of a generation. -/
structure Options where
  /-- The module that is generated. -/
  moduleName : String := "container"
  /-- The type of the root provider. -/
  rootName : String := "ServiceProvider"
  /-- The type of the scoped provider. -/
  scopedName : String := "ScopedServiceProvider"
  /-- The path of the library that the generated code uses. -/
  runtimePath : String := "::di_abstractions"
  /-- Markers that disagree are an error. -/
  strictMarkers : Bool := false
  deriving DecidableEq, Repr

namespace Options

/-- The options that are names, by the names of the fields that hold them. -/
def names (o : Options) : List (String × String) :=
  [("namespace", o.moduleName), ("provider_name", o.rootName), ("scoped_provider_name", o.scopedName)]

/-- Why the options are not valid, if they are not: a name that is no identifier, two equal names of providers, or a
path that is none. -/
def fault? (o : Options) : Option String :=
  match o.names.find? fun (_, name) => (Syntax.readIdent? name).isNone with
  | some (field, name) => some (field ++ " 不是合法的标识符: `" ++ name ++ "`")
  | none =>
    if o.rootName == o.scopedName then
      some ("provider_name 与 scoped_provider_name 不能相同: `" ++ o.rootName ++ "`")
    else if (Syntax.readPath? o.runtimePath).isNone then
      some ("runtime_path 不是合法的路径: `" ++ o.runtimePath ++ "`")
    else none

/-- Checks that the options are valid. -/
def validate (o : Options) : Except ConfigError Unit :=
  match o.fault? with
  | some reason => .error (.invalid reason)
  | none => .ok ()

end Options

end ServiceContainer
