import ServiceContainer.Generation
import ServiceContainer.Manifest
import ServiceContainer.Options.Layer

/-!
# Production

From files to a container: the manifest is read, its options are merged with the other layers, its declarations are
built, and the container is generated. Nothing is written before all of that has succeeded.

## Main definitions

* `Failure`, `Failure.chain` — what ends a production, and the messages about it
* `FileTree.manifest` — the manifest at a path
* `Request`, `Request.produce` — a production
* `build` — a production as a step of a build
-/

namespace ServiceContainer

/-- What ends a production. -/
inductive Failure where
  | manifest (path : String) (cause : ConfigError)
  | options (cause : ConfigError)
  | declarations (cause : GenerationError)
  | generation (path : String) (cause : GenerationError)
  | output (path : String)
  deriving DecidableEq, Repr

/-- The cause of the error lies outside, so the messages end with it. -/
def ConfigError.isForeign : ConfigError → Bool
  | .unreadable | .unparsable _ => true
  | .missingFile _ | .invalid _ => false

/-- The message of an error and those of what it is about. -/
def GenerationError.chain (e : GenerationError) : List String :=
  e.message :: match e.source? with
    | some c => if c.isForeign then [] else [c.message]
    | none => []

/-- The messages about a failure, the outermost first. -/
def Failure.chain : Failure → List String
  | .manifest path cause => ("无法加载声明清单 " ++ path) :: (GenerationError.config cause).chain
  | .options cause => ["生成选项无效", cause.message]
  | .declarations cause => cause.chain
  | .generation path cause => ("容器生成失败: " ++ path) :: cause.chain
  | .output path => ["无法写入 " ++ path]

/-- The path names a file in JSON. -/
def isJson (path : String) : Bool :=
  match extension? path with
  | some e => e.toList.map Char.toLower == "json".toList
  | none => false

/-- The manifest at a path: in JSON where the extension says so, else in TOML. -/
def FileTree.manifest (t : FileTree) (path : String) : Except ConfigError Manifest :=
  if !t.holds path then .error (.missingFile path)
  else
    match t.read? path with
    | some text => if isJson path then Manifest.ofJson text else Manifest.ofToml text
    | none => .error .unreadable

/-- What is to be produced: from which manifest, with which option file, and with which options above all layers. -/
structure Request where
  manifest : String
  optionFile : Option String := none
  moduleName : Option String := none
  strict : Bool := false
  deriving DecidableEq, Repr

namespace Request

/-- The options with those of the request above them. -/
def override (r : Request) (o : Options) : Options :=
  { o with moduleName := r.moduleName.getD o.moduleName, strictMarkers := r.strict || o.strictMarkers }

/-- Produces a container from files under an environment. -/
def produce (r : Request) (environment : List (String × String)) (t : FileTree) : Except Failure Generated := do
  let m ← (t.manifest r.manifest).mapError (.manifest r.manifest)
  let o ← (Options.load m.options r.optionFile environment t).mapError .options
  let ds ← m.declarations.mapError .declarations
  (generate (r.override o) ds).mapError (.generation r.manifest)

end Request

/-! ### Builds -/

/-- The fields of options, as the names of variables have them. -/
def optionVariables : List String :=
  ["NAMESPACE", "PROVIDER_NAME", "SCOPED_PROVIDER_NAME", "RUNTIME_PATH", "STRICT_MARKERS"]

/-- What a build prints about the inputs that it depends on. -/
def dependencyLines (manifest : String) : List String :=
  ("cargo:rerun-if-changed=" ++ manifest)
    :: optionVariables.map ("cargo:rerun-if-env-changed=DI_CODEGEN_" ++ ·)

/-- What a build prints about the findings. -/
def findingLines (ds : List Diagnostic) : List String := ds.map fun d => "cargo:warning=" ++ d.line

/-- What came of a build: the lines that it printed, and the container with whether its file changed. -/
structure BuildResult where
  lines : List String
  outcome : Except Failure (Generated × Bool)

/-- Writes a text to a file. The result is whether the file changed, or that it cannot be written. -/
def FileTree.output (t : FileTree) (path text : String) : FileTree × Except Failure Bool :=
  match t.write path text with
  | (t, .unchanged) => (t, .ok false)
  | (t, .changed) => (t, .ok true)
  | (t, .refused) => (t, .error (.output path))

/-- Produces the container of a manifest into a file. -/
def build (manifest out : String) (environment : List (String × String)) (t : FileTree) : FileTree × BuildResult :=
  match { manifest : Request }.produce environment t with
  | .error f => (t, ⟨dependencyLines manifest, .error f⟩)
  | .ok g =>
    let (t, written) := t.output out g.source
    (t, ⟨dependencyLines manifest ++ findingLines g.diagnostics, written.map (g, ·)⟩)

end ServiceContainer
