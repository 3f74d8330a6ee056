import ServiceContainer.FileTree
import ServiceContainer.Number.Literal
import ServiceContainer.Options.Decode
import ServiceContainer.Text.LowerCase
import ServiceContainer.Toml.Reader
import ServiceContainer.Yaml.Reader

/-!
# Layers of options

Options come in layers: those of a manifest, those of a file, those of the environment. A later layer replaces single
values of an earlier one. Keys are compared in lower case. A key may lead into a value (`a.b`, `a[0]`), which makes a
table or a list of it.

Two things are assumed of option files, where `config` leaves more open.

* An option file is TOML, JSON or YAML. The formats INI, RON and JSON5, which `config` reads too with its default
  features, are left out: a file with one of their extensions counts as one of no known format, and none is looked for
  beside a path without a file. Where several files beside such a path differ in the extension alone, the first one in
  the order of `fileFormats` is read; `config` promises no order.
* No two entries of one option file are about the same option: their keys differ in more than letter case, and none
  leads into the value of another. `config` keeps the entries of a file without their order, so which of two such
  entries counts is open there; here it is the later one.

## Main definitions

* `Settings` — values by their keys
* `Settings.ofFile`, `Settings.ofEnvironment` — the layers
* `Options.ofSettings` — options from values of all layers
* `Options.load` — options from a base, a file and the environment
-/

namespace ServiceContainer

open Number

/-- Values by their keys, each key once. -/
abbrev Settings := List (String × Document)

/-- A text in lower case. -/
def lower (s : String) : String := String.ofList (Text.lowerText s.toList)

namespace Settings

/-- The value of a key. -/
def value? (s : Settings) (key : String) : Option Document := (s.find? (·.1 == key)).map (·.2)

/-- The values with another one under a key. -/
def put (key : String) (d : Document) : Settings → Settings
  | [] => [(key, d)]
  | (k, old) :: rest => if k == key then (k, d) :: rest else (k, old) :: put key d rest

/-! ### Keys -/

/-- A character of a name in a key. -/
def isKeyChar (c : Char) : Bool := c.isAlphanum || c == '_' || c == '-' || c == ' '

/-- The text without the blanks at its front. -/
def skipBlanks (cs : List Char) : List Char := cs.dropWhile fun c => c == ' ' || c == '\t'

/-- The text after an index and its bracket: an integer of 64 bits with blanks around it. -/
def afterIndex? (cs : List Char) : Option (List Char) :=
  let (sign, cs) := match skipBlanks cs with
    | '-' :: rest => ("-", rest)
    | rest => ("", rest)
  match integer? (sign ++ String.ofList (cs.takeWhile Char.isDigit)), skipBlanks (cs.dropWhile Char.isDigit) with
  | some _, ']' :: rest => some rest
  | _, _ => none

/-- The text leads into a value: names after points, and indices in brackets. `fuel` bounds them. -/
def leadsInside : Nat → List Char → Bool
  | 0, _ => false
  | _, [] => true
  | fuel + 1, '.' :: rest =>
    !(rest.takeWhile isKeyChar).isEmpty && leadsInside fuel (rest.dropWhile isKeyChar)
  | fuel + 1, '[' :: rest =>
    match afterIndex? rest with
    | some rest => leadsInside fuel rest
    | none => false
  | _, _ => false

/-- What a key is about: a value, or something inside one. -/
inductive Target where
  | whole (key : String)
  | inside (key : String)
  deriving DecidableEq, Repr

/-- What a key is about, in lower case. A key that is no path is a name as it stands. -/
def Target.ofKey (key : String) : Target :=
  let cs := (lower key).toList
  let name := cs.takeWhile isKeyChar
  let rest := cs.dropWhile isKeyChar
  if !name.isEmpty && !rest.isEmpty && leadsInside (cs.length + 1) rest then .inside (String.ofList name)
  else .whole (lower key)

/-! ### Merging -/

/-- A value that consists of others, which no option is. -/
def composite : Document := .list []

/-- The values with one entry of a later layer. A table without entries changes nothing but a key that is missing. -/
def merge (s : Settings) (entry : String × Document) : Settings :=
  match Target.ofKey entry.1, entry.2 with
  | .inside key, _ => s.put key composite
  | .whole key, .table [] _ => if (s.value? key).isSome then s else s.put key composite
  | .whole key, .table _ _ => s.put key composite
  | .whole key, d => s.put key d

/-- The values with the entries of a later layer, in their order. The order matters only where two entries are about
the same option, which is assumed not to happen within one option file. -/
def mergeAll (s : Settings) (layer : List (String × Document)) : Settings := layer.foldl merge s

end Settings

/-! ### The layers -/

/-- A value nests at most this many lists and tables. -/
def nestingLimit : Nat := 127

mutual

/-- The document is complete, without numbers that are too large, and does not nest deeper than the depth. -/
def Document.isPlain (depth : Nat) : Document → Bool
  | .broken | .excess | .garbled _ => false
  | .array items whole => whole && depth != 0 && allPlain (depth - 1) items
  | .table fields whole => whole && depth != 0 && allPlainFields (depth - 1) fields
  | _ => true

/-- All items are plain. -/
def Document.allPlain (depth : Nat) : List Document → Bool
  | [] => true
  | d :: rest => d.isPlain depth && Document.allPlain depth rest

/-- All values of fields are plain. -/
def Document.allPlainFields (depth : Nat) : List (String × Document) → Bool
  | [] => true
  | (_, d) :: rest => d.isPlain depth && Document.allPlainFields depth rest

end

/-- The format of an option file. -/
inductive FileFormat where
  | toml | json | yaml
  deriving DecidableEq, Repr

/-- The extensions of files of options, in the order in which files are looked for. Those of the formats INI, RON and
JSON5 are left out. -/
def fileFormats : List (String × FileFormat) :=
  [("toml", .toml), ("json", .json), ("yaml", .yaml), ("yml", .yaml)]

/-- The format of a file with an extension. -/
def FileFormat.ofExtension? (extension : String) : Option FileFormat :=
  (fileFormats.find? (·.1 == extension)).map (·.2)

/-- The document of a text. -/
def FileFormat.read? : FileFormat → String → Option Document
  | .toml, text => Toml.read? text
  | .json, text =>
    match Json.read text with
    | (d, true) => if d.isPlain nestingLimit then some d else none
    | (_, false) => none
  | .yaml, text => Yaml.read? text

/-- The entries of an option file, which must be a table. -/
def FileFormat.entries (f : FileFormat) (text : String) : Except ConfigError (List (String × Document)) :=
  match f.read? (String.ofList (Toml.skipMark text.toList)) with
  | some (.table fields _) => .ok fields
  | _ => .error (.unparsable .optionFile)

/-- The steps to the option files that a path without a file stands for, with their formats: an extension is added to
its last step. -/
def optionFilesFor (path : String) : List (List String × FileFormat) :=
  match (steps path).getLast? with
  | none => []
  | some name =>
    if name == ".." then []
    else fileFormats.map fun (extension, format) => ((steps path).dropLast ++ [name ++ "." ++ extension], format)

/-- The option file that a path names, and its format. Without a file at the path it is the first one that has one of
the extensions behind the path; which of several comes first is the order of `fileFormats`. -/
def FileTree.optionFile? (t : FileTree) (path : String) : Option (FileFormat × String) :=
  if t.hasFile path then do
    let format ← FileFormat.ofExtension? ((extension? path).getD "")
    return (format, ← t.read? path)
  else do
    let (place, format) ← (optionFilesFor path).find? fun (place, _) => t.hasFileAlong place
    return (format, ← t.textAlong? place)

/-- The entries of the option file at a path. -/
def FileTree.optionEntries (t : FileTree) (path : String) : Except ConfigError (List (String × Document)) :=
  if !t.holds path then .error (.missingFile path)
  else
    match t.optionFile? path with
    | some (format, text) => format.entries text
    | none => .error (.unparsable .optionValue)

/-- What the names of variables that are options begin with, in lower case. -/
def variableMark : List Char := "di_codegen_".toList

/-- The value of a variable: a truth value, an integer, a binary number, or a text. -/
def variableValue (text : String) : Document :=
  if lower text == "true" then .boolean true
  else if lower text == "false" then .boolean false
  else
    match integer? text, decimal? text with
    | some n, _ => .integer n
    | none, some x => .decimal x
    | none, none => .text text

/-- The entries of the environment. -/
def environmentEntries (environment : List (String × String)) : List (String × Document) :=
  environment.filterMap fun (name, text) =>
    let cs := name.toList
    if (cs.take variableMark.length).map Char.toLower == variableMark then
      some (lower (String.ofList (cs.drop variableMark.length)), variableValue text)
    else none

/-! ### From values to options -/

/-- An integer as a text; one that takes more than 64 bits with its sign counts as a binary number. -/
def integerText (n : Int) : String :=
  if isWord n then toString n else (Binary64.ofDecimal false n.toNat 0).positional

/-- A value as a text. -/
def Document.asText? : Document → Option String
  | .text s => some s
  | .moment s => some s
  | .boolean b => some (if b then "true" else "false")
  | .integer n => some (integerText n)
  | .decimal x => some x.positional
  | _ => none

/-- A value as a truth value: numbers are true unless they are zero, and some words stand for one. -/
def Document.asFlag? : Document → Option Bool
  | .boolean b => some b
  | .integer n => some (n != 0)
  | .decimal x => some (!x.isZero)
  | .text s | .moment s =>
    if ["1", "true", "on", "yes"].contains (lower s) then some true
    else if ["0", "false", "off", "no"].contains (lower s) then some false
    else none
  | _ => none

/-- The options that values give, if they fit. -/
def Options.ofSettings? (s : Settings) : Option Options := do
  return { moduleName := ← (← s.value? "namespace").asText?
           rootName := ← (← s.value? "provider_name").asText?
           scopedName := ← (← s.value? "scoped_provider_name").asText?
           runtimePath := ← (← s.value? "runtime_path").asText?
           strictMarkers := ← (← s.value? "strict_markers").asFlag? }

/-- The values of all layers: base, file, environment. -/
def Settings.ofLayers (base : Options) (file environment : List (String × Document)) : Settings :=
  (Settings.mergeAll (Settings.mergeAll base.entries file) environment)

/-- The options of a base, of a file if there is one, and of the environment; the result is valid. -/
def Options.load (base : Options) (file? : Option String) (environment : List (String × String)) (t : FileTree) :
    Except ConfigError Options := do
  let file ← match file? with
    | some path => t.optionEntries path
    | none => .ok []
  match Options.ofSettings? (Settings.ofLayers base file (environmentEntries environment)) with
  | some o => do
    o.validate
    return o
  | none => .error (.unparsable .optionValue)

end ServiceContainer
