import ServiceContainer.CommandLine

/-!
# The program

Reads the files that the arguments name, does what the arguments ask for, and writes the files that changed.
-/

open ServiceContainer

/-- The variables of the environment. -/
def environmentVariables : IO (List (String × String)) := do
  let text ← try IO.FS.readFile "/proc/self/environ" catch _ => pure ""
  return (text.splitOn "\x00").filterMap fun entry =>
    match entry.splitOn "=" with
    | name :: value => if name.isEmpty then none else some (name, "=".intercalate value)
    | [] => none

/-- The paths at which the program may find files. -/
def pathsOf (a : Arguments) : List String :=
  let option := a.request.optionFile.toList
  a.request.manifest :: option ++ a.output.toList
    ++ option.flatMap fun path => fileFormats.map fun (extension, _) => path ++ "." ++ extension

/-- The path of the output that arguments name. -/
def outputOf (arguments : List String) : String :=
  match Invocation.ofList arguments with
  | .run a => a.output.getD ""
  | _ => ""

/-- The files at paths. -/
def readFiles (paths : List String) : IO FileTree :=
  paths.foldlM (fun (t : FileTree) (path : String) => do
    try return (t.store path (← IO.FS.readFile path)).1
    catch _ => try let _ ← IO.FS.readBinFile path; return t.storeBlob path catch _ => return t) {}

/-- The path of a place. The first step of an absolute path is the slash. -/
def pathOf : List String → String
  | [] => "."
  | "/" :: rest => "/" ++ "/".intercalate rest
  | place => "/".intercalate place

/-- Writes the files in which a tree differs from an earlier one. -/
def writeChanges (before after : FileTree) : IO Unit :=
  for (place, text) in after.files do
    if before.text? place != some text then
      IO.FS.createDirAll (pathOf place.dropLast)
      IO.FS.writeFile (pathOf place) text

/-- Runs the program. -/
def main (arguments : List String) : IO UInt32 := do
  let environment ← environmentVariables
  let before ← match Invocation.ofList arguments with
    | .run a => readFiles (pathsOf a)
    | _ => pure {}
  let (after, ending) := run arguments environment before
  let ending ← try do writeChanges before after; pure ending
    catch _ => pure (.failure (.output (outputOf arguments)))
  match ending with
  | .success text => IO.print text
  | .failure cause =>
    let lines := cause.chain
    IO.eprintln ("Error: " ++ "\n\nCaused by:\n    ".intercalate lines)
  | .misuse => IO.eprint usage
  return ending.code.toUInt32
