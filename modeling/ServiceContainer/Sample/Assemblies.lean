import ServiceContainer.Generation
import ServiceContainer.Manifest
import ServiceContainer.World.Stage

/-!
# Sample containers

Three containers that show every kind of service: lifetimes, contracts, factories, disposal, base types, and names of
their own. Beside what they declare stand the full names of their types and what their code asks its provider for.
Probes are providers from outside that can be asked and composed with those of the containers.

## Main definitions

* `Manifest.container?` — the container of a manifest
* `Probe` — a provider of a single type
* `Sample.app`, `Sample.wiring`, `Sample.services` — the manifests
* `Sample.assembly?` — the assemblies by name
* `Sample.typeNames` — the types that can be asked for, by short names
-/

namespace ServiceContainer

/-- The container that is generated from a manifest. -/
def Manifest.container? (m : Manifest) : Option Container := do
  let ds ← m.declarations.toOption
  let (_, c) ← (compose m.options ds).outcome.toOption
  some c

/-! ### Probes -/

/-- What a probe does when it is asked for the type that it serves. -/
inductive ProbeMode where
  | serving
  | failing (error : DependencyError)
  /-- Answers with something of another type. -/
  | mistyped (type : String)
  deriving DecidableEq, Repr

/-- What is replied in a mode to a request for the type that is served. -/
def ProbeMode.reply (type : String) : ProbeMode → Reply
  | .serving => .fresh type
  | .failing error => .refused error
  | .mistyped other => .fresh other

/-- A provider from outside that serves a single type, whatever happened before. -/
structure Probe where
  name : String
  type : String
  mode : ProbeMode
  deriving DecidableEq, Repr

/-- The probe as a provider from outside. -/
def Probe.provider (p : Probe) : Foreign where
  name := p.name
  reply _ _ type := if p.type == type then p.mode.reply type else .absent

/-- A probe gets a name. -/
def Step.probe (p : Probe) (name : String) : Step := .foreign p.provider name

/-! ### Names -/

/-- The text begins with another, and this follows. -/
def afterText? (front text : String) : Option String :=
  if front.toList.isPrefixOf text.toList then some (String.ofList (text.toList.drop front.length)) else none

namespace Sample

/-! ### What is declared -/

/-- A marker of a lifetime. -/
def marked (lifetime : String) : List MarkerEntry := [{ lifetime := some lifetime }]

/-- A constructor of a name. -/
def constructed (name : String) (parameters : List String) : Option ConstructorEntry := some { name, parameters }

/-- The type of a parameter that is handed the provider. -/
def providerType : String := "&dyn ServiceProvider"

/-- Services of all lifetimes, with contracts, factories and disposal. -/
def app : Manifest where
  types :=
    [{ name := "Clock", unit := true, markers := marked "singleton" },
     { name := "Cache", disposable := true, markers := marked "singleton" },
     { name := "Ticket", disposable := true, markers := marked "transient",
       constructor := constructed "new" ["Rc<Clock>"] },
     { name := "Session", disposable := true, markers := marked "scoped",
       constructor := constructed "new" ["Rc<Clock>"] },
     { name := "Greeter", isTrait := true,
       markers := [{ lifetime := some "singleton", key := some "dyn Greeter" }] },
     { name := "English", unit := true, contracts := ["Greeter"] },
     { name := "Settings", markers := marked "singleton", constructor := constructed "new" [],
       methods := [{ name := "create", isFactory := true, parameters := [providerType], returns := some "Self" }] },
     { name := "Counter", markers := marked "transient", constructor := constructed "new" [],
       methods := [{ name := "build", isFactory := true, returns := some "Self" }] },
     { name := "Report", markers := marked "transient",
       constructor := constructed "new" ["Settings", "Rc<dyn Greeter>"] },
     { name := "Workspace", markers := marked "scoped", constructor := constructed "new" [providerType] },
     { name := "Repository", unit := true, isAbstract := true, markers := marked "scoped" },
     { name := "OrderRepository", base := some "Repository" },
     { name := "Unregistered", unit := true }]

/-- A container with names of its own. -/
def wiring : Manifest where
  options := { moduleName := "wiring", rootName := "RootProvider", scopedName := "RequestScope" }
  types :=
    [{ name := "Request", markers := marked "scoped" },
     { name := "Router", markers := marked "singleton" }]

/-- Services of which one is opened by a factory and closed with its scope. -/
def services : Manifest where
  options := { moduleName := "services" }
  types :=
    [{ name := "Clock", unit := true, markers := marked "singleton" },
     { name := "Config", markers := marked "singleton" },
     { name := "Logger", isTrait := true,
       markers := [{ lifetime := some "singleton", key := some "dyn Logger" }] },
     { name := "ConsoleLogger", contracts := ["Logger"], constructor := constructed "new" ["Rc<Clock>"] },
     { name := "Connection", markers := marked "scoped", contracts := ["Disposable"],
       methods := [{ name := "open", isFactory := true, parameters := [providerType], returns := some "Self" }] },
     { name := "Request", markers := marked "scoped",
       constructor := constructed "new" ["Rc<Connection>", "Rc<dyn Logger>", "Config"] },
     { name := "Stamp", markers := marked "transient", constructor := constructed "now" ["Rc<Clock>"] }]

/-! ### What is running -/

/-- Where the types of the first container are. -/
def appModule : String := "service_macros_integration_tests::app::"

/-- Where the types of the second container are. -/
def customModule : String := "service_macros_integration_tests::custom::"

/-- Where the types of the third container are. -/
def servicesModule : String := "di_codegen_integration_tests::"

/-- The full name of a type that is defined in a module. -/
def qualify (module text : String) : String :=
  match afterText? "dyn " text with
  | some rest => "dyn " ++ module ++ rest
  | none => module ++ text

/-- The types that the code of a type asks the provider for. -/
def requestsOf (module text : String) : List String :=
  if module == appModule && text == "Workspace" then [qualify module "dyn Greeter", qualify module "Session"]
  else if module == servicesModule && text == "Connection" then [qualify module "Config"]
  else []

/-- The assembly of a container whose types are in a module. -/
def assemblyOf (module : String) (c : Container) : Assembly where
  container := c
  typeName t := qualify module t.display
  requests
    | .constructor type .. | .factory type _ | .unitLiteral type | .default type => requestsOf module type.display

/-- The first assembly. -/
def app? : Option Assembly := app.container?.map (assemblyOf appModule)

/-- The second assembly. -/
def wiring? : Option Assembly := wiring.container?.map (assemblyOf customModule)

/-- The third assembly. -/
def services? : Option Assembly := services.container?.map (assemblyOf servicesModule)

/-- The assembly of a name. -/
def assembly? (name : String) : Option Assembly :=
  match name with
  | "app" => app?
  | "wiring" => wiring?
  | "services" => services?
  | _ => none

/-- The types that can be asked for, by short names. -/
def typeNames : List (String × String) :=
  (["Clock", "Cache", "Ticket", "Session", "dyn Greeter", "English", "Settings", "Counter", "Report", "Workspace",
    "Repository", "OrderRepository", "Unregistered"].map fun s => (s, qualify appModule s))
  ++ [("custom.Request", qualify customModule "Request"), ("custom.Router", qualify customModule "Router")]
  ++ (["Clock", "Config", "ConsoleLogger", "Connection", "Request", "Stamp"].map fun s =>
        ("svc." ++ s, qualify servicesModule s))
  ++ [("svc.Logger", qualify servicesModule "dyn Logger"), ("str", "str"), ("u8", "u8"), ("u16", "u16")]

/-- The type of a short name. -/
def typeName? (short : String) : Option String := (typeNames.find? (·.1 == short)).map (·.2)

/-- The short name of a type. -/
def shortName (type : String) : String := ((typeNames.find? (·.2 == type)).map (·.1)).getD type

end Sample

end ServiceContainer
