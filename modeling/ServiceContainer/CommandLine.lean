import ServiceContainer.Json.Writer
import ServiceContainer.Production

/-!
# The command line

`MANIFEST [-o FILE] [-c FILE] [--namespace NAME] [--strict] [--emit source|descriptors] [--log-level LEVEL]`

## Main definitions

* `Arguments`, `Invocation.ofList` — the arguments
* `run` — what the program does
-/

namespace ServiceContainer

/-- What is put out: the text of the container, or the table of its services. -/
inductive Emission where
  | source | descriptors
  deriving DecidableEq, Repr

/-- The form with a name. -/
def Emission.ofName? (name : String) : Option Emission :=
  if name == "source" then some .source else if name == "descriptors" then some .descriptors else none

/-- The arguments of the program. -/
structure Arguments where
  request : Request
  output : Option String
  emission : Emission
  deriving DecidableEq, Repr

/-- What the arguments ask for. -/
inductive Invocation where
  | run (arguments : Arguments)
  | help
  | misuse
  deriving DecidableEq, Repr

/-! ### Reading arguments -/

/-- The options that take a value. -/
inductive Slot where
  | output | config | moduleName | emission | logLevel
  deriving DecidableEq, Repr

/-- The long name of an option that takes a value. -/
def Slot.ofName? (name : String) : Option Slot :=
  match name with
  | "output" => some .output
  | "config" => some .config
  | "namespace" => some .moduleName
  | "emit" => some .emission
  | "log-level" => some .logLevel
  | _ => none

/-- The letter of an option that takes a value. -/
def Slot.ofLetter? (letter : Char) : Option Slot :=
  if letter == 'o' then some .output else if letter == 'c' then some .config else none

/-- A value that may stand for the option: paths are not empty, and what is put out has a name. -/
def Slot.admits (slot : Slot) (value : String) : Bool :=
  match slot with
  | .output | .config => value != ""
  | .emission => (Emission.ofName? value).isSome
  | .moduleName | .logLevel => true

/-- The arguments read so far. -/
structure Draft where
  manifest : Option String := none
  values : List (Slot × String) := []
  strict : Bool := false
  deriving DecidableEq, Repr

namespace Draft

/-- The value of an option. -/
def value? (d : Draft) (slot : Slot) : Option String := (d.values.find? (·.1 = slot)).map (·.2)

/-- Adds the value of an option, which is given once. -/
def put? (slot : Slot) (value : String) (d : Draft) : Option Draft :=
  if (d.value? slot).isSome || !slot.admits value then none
  else some { d with values := d.values ++ [(slot, value)] }

/-- Adds the manifest, which is given once. -/
def name? (path : String) (d : Draft) : Option Draft :=
  if d.manifest.isSome || path == "" then none else some { d with manifest := some path }

/-- Adds the flag, which is given once. -/
def beStrict? (d : Draft) : Option Draft := if d.strict then none else some { d with strict := true }

/-- The arguments, with defaults for those that are missing. -/
def invocation (d : Draft) : Invocation :=
  match d.manifest with
  | none => .misuse
  | some manifest => .run
      { request := { manifest, optionFile := d.value? .config, moduleName := d.value? .moduleName, strict := d.strict }
        output := d.value? .output
        emission := ((d.value? .emission).bind Emission.ofName?).getD .source }

end Draft

/-- An argument that begins with a dash and is not only that is an option. -/
def isOption (argument : String) : Bool := argument.startsWith "-" && argument != "-"

/-- What an argument that is an option says. -/
inductive OptionPart where
  | help
  | strict
  | slot (slot : Slot) (value : Option String)
  | unknown
  deriving DecidableEq, Repr

/-- What an argument that is an option says. A value may follow the name of an option after an equals sign, and a
letter directly. -/
def OptionPart.ofArgument (argument : String) : OptionPart :=
  match argument.toList with
  | '-' :: '-' :: body =>
    let name := String.ofList (body.takeWhile (· != '='))
    let value := match body.dropWhile (· != '=') with
      | _ :: value => some (String.ofList value)
      | [] => none
    match Slot.ofName? name, name, value with
    | some s, _, value => .slot s value
    | none, "help", none => .help
    | none, "strict", none => .strict
    | none, _, _ => .unknown
  | '-' :: letter :: rest =>
    match Slot.ofLetter? letter, rest with
    | some s, [] => .slot s none
    | some s, '=' :: value => .slot s (some (String.ofList value))
    | some s, value => .slot s (some (String.ofList value))
    | none, _ => if letter == 'h' then .help else .unknown
  | _ => .unknown

/-- Reads arguments after two dashes, none of which is an option. -/
def readOperands (d : Draft) : List String → Invocation
  | [] => d.invocation
  | argument :: rest =>
    match d.name? argument with
    | some d => readOperands d rest
    | none => .misuse

/-- Reads arguments from the front; `pending` is an option that waits for its value. -/
def readArguments (d : Draft) (pending : Option Slot) : List String → Invocation
  | [] => if pending.isSome then .misuse else d.invocation
  | argument :: rest =>
    match pending with
    | some slot =>
      if isOption argument then .misuse
      else
        match d.put? slot argument with
        | some d => readArguments d none rest
        | none => .misuse
    | none =>
      if argument == "--" then readOperands d rest
      else if isOption argument then
        match OptionPart.ofArgument argument with
        | .help => .help
        | .strict =>
          match d.beStrict? with
          | some d => readArguments d none rest
          | none => .misuse
        | .slot slot (some value) =>
          match d.put? slot value with
          | some d => readArguments d none rest
          | none => .misuse
        | .slot slot none => readArguments d (some slot) rest
        | .unknown => .misuse
      else
        match d.name? argument with
        | some d => readArguments d none rest
        | none => .misuse

/-- What arguments ask for. -/
def Invocation.ofList (arguments : List String) : Invocation := readArguments {} none arguments

/-! ### Running -/

/-- How the program ends. -/
inductive Ending where
  /-- With a text on its output. -/
  | success (text : String)
  | failure (cause : Failure)
  | misuse
  deriving DecidableEq, Repr

/-- The number that the program ends with. -/
def Ending.code : Ending → Nat
  | .success _ => 0
  | .failure _ => 1
  | .misuse => 2

/-- How the program is called. -/
def usage : String :=
  "MANIFEST [-o FILE] [-c FILE] [--namespace NAME] [--strict] " ++
    "[--emit source|descriptors] [--log-level LEVEL]\n"

/-- What is put out about a container. -/
def Emission.text (e : Emission) (g : Generated) : String :=
  match e with
  | .source => g.source
  | .descriptors => Json.pretty g.report.document ++ "\n"

/-- Does what arguments ask for: the text goes to a file or to the output of the program. -/
def Arguments.run (a : Arguments) (environment : List (String × String)) (t : FileTree) : FileTree × Ending :=
  match a.request.produce environment t with
  | .error f => (t, .failure f)
  | .ok g =>
    match a.output with
    | none => (t, .success (a.emission.text g))
    | some path =>
      match t.output path (a.emission.text g) with
      | (t, .ok _) => (t, .success "")
      | (t, .error f) => (t, .failure f)

/-- What the program does with arguments. -/
def run (arguments : List String) (environment : List (String × String)) (t : FileTree) : FileTree × Ending :=
  match Invocation.ofList arguments with
  | .run a => a.run environment t
  | .help => (t, .success usage)
  | .misuse => (t, .misuse)

end ServiceContainer
