/-!
# Files

A tree of folders and files as a value, and paths into it. A path is a text; its steps lead from the folder where the
tree begins, and a path that begins with a slash leads through a folder of that name.

## Main definitions

* `steps`, `extension?` — parts of a path
* `FileTree` — the tree
* `FileTree.holds`, `FileTree.read?` — what there is at a path
* `FileTree.store`, `FileTree.write` — changing it
-/

namespace ServiceContainer

/-! ### Paths -/

/-- The parts of a text between the places where a character stands. -/
def partsAt (separator : Char) (text : String) : List String := (text.toList.splitOn separator).map String.ofList

/-- The steps of a path, without those that stay where they are. -/
def steps (path : String) : List String :=
  let parts := (partsAt '/' path).filter fun s => s != "" && s != "."
  if path.toList.head? == some '/' then "/" :: parts else parts

/-- The path ends with a slash, so only a folder can stand there. -/
def namesFolder (path : String) : Bool :=
  match (partsAt '/' path).getLast? with
  | some last => last == "" || last == "."
  | none => false

/-- The extension of a name: what follows its last point, which is not its first character. -/
def extensionOf? (name : String) : Option String :=
  if name == ".." then none
  else
    match (partsAt '.' name).reverse with
    | last :: rest => if rest.all (· == "") && rest.length ≤ 1 then none else some last
    | [] => none

/-- The extension of the last step of a path. -/
def extension? (path : String) : Option String := (steps path).getLast?.bind extensionOf?

/-! ### The tree -/

/-- Files with their texts, files whose content is no text, and folders. The folder where the tree begins always
exists. -/
structure FileTree where
  files : List (List String × String) := []
  folders : List (List String) := []
  /-- The places of files whose content is no text. -/
  blobs : List (List String) := []
  deriving DecidableEq, Repr

namespace FileTree

/-- There is a folder at a place. -/
def isFolder (t : FileTree) (place : List String) : Bool := place.isEmpty || t.folders.contains place

/-- The text of the file at a place. -/
def text? (t : FileTree) (place : List String) : Option String :=
  (t.files.find? (·.1 == place)).map (·.2)

/-- There is a file at a place. -/
def isFile (t : FileTree) (place : List String) : Bool := (t.text? place).isSome || t.blobs.contains place

/-- The place where steps lead from a place. Only folders can be passed, and a step back does not leave the tree. -/
def follow? (t : FileTree) (place : List String) : List String → Option (List String)
  | [] => some place
  | step :: rest =>
    if !t.isFolder place then none
    else if step == ".." then (if place.isEmpty then none else t.follow? place.dropLast rest)
    else t.follow? (place ++ [step]) rest

/-- There is a file where steps lead. -/
def hasFileAlong (t : FileTree) (steps : List String) : Bool := (t.follow? [] steps).any t.isFile

/-- The text of the file where steps lead. -/
def textAlong? (t : FileTree) (steps : List String) : Option String := (t.follow? [] steps).bind t.text?

/-- There is a file at a path. -/
def hasFile (t : FileTree) (path : String) : Bool := path != "" && !namesFolder path && t.hasFileAlong (steps path)

/-- There is a file or a folder at a path. -/
def holds (t : FileTree) (path : String) : Bool :=
  t.hasFile path || (path != "" && (t.follow? [] (steps path)).any t.isFolder)

/-- The text of the file at a path. -/
def read? (t : FileTree) (path : String) : Option String :=
  if path == "" || namesFolder path then none else t.textAlong? (steps path)

/-- The tree with a text at a place, which is no folder. -/
def put (t : FileTree) (place : List String) (text : String) : FileTree :=
  if (t.text? place).isSome then
    { t with files := t.files.map fun f => if f.1 == place then (place, text) else f }
  else { t with files := t.files ++ [(place, text)], blobs := t.blobs.filter (· != place) }

/-- Makes the folders on the way of some steps, as far as there is no file on it; the place where they lead. -/
def makeFolders (t : FileTree) (place : List String) : List String → FileTree × Option (List String)
  | [] => (t, some place)
  | step :: rest =>
    if step == ".." then (if place.isEmpty then (t, none) else t.makeFolders place.dropLast rest)
    else
      let next := place ++ [step]
      if t.isFolder next then t.makeFolders next rest
      else if t.isFile next then (t, none)
      else { t with folders := t.folders ++ [next] }.makeFolders next rest

/-- The place for a file at a path, in folders that are made where they are missing, unless no file can stand there. -/
def makeRoom (t : FileTree) (path : String) : FileTree × Option (List String) :=
  match (steps path).getLast? with
  | none => (t, none)
  | some name =>
    match t.makeFolders [] (steps path).dropLast with
    | (t, none) => (t, none)
    | (t, some folder) =>
      let place := folder ++ [name]
      if name == ".." || namesFolder path || t.isFolder place then (t, none) else (t, some place)

/-- Puts a text at a path. The result is false where no file can stand. -/
def store (t : FileTree) (path text : String) : FileTree × Bool :=
  match t.makeRoom path with
  | (t, none) => (t, false)
  | (t, some place) => (t.put place text, true)

/-- What became of a text that was to be written. -/
inductive Written where
  /-- The file has the text already. -/
  | unchanged
  | changed
  /-- No file can stand at the path. -/
  | refused
  deriving DecidableEq, Repr

/-- Writes a text to a file that has another content, or is missing. -/
def write (t : FileTree) (path text : String) : FileTree × Written :=
  if t.read? path == some text then (t, .unchanged)
  else
    match t.store path text with
    | (t, true) => (t, .changed)
    | (t, false) => (t, .refused)

/-- The tree of some files. -/
def ofFiles (files : List (String × String)) : FileTree :=
  files.foldl (fun t (path, text) => (t.store path text).1) {}

/-- The tree with a file at a path whose content is no text, if a file can stand there. -/
def storeBlob (t : FileTree) (path : String) : FileTree :=
  match t.makeRoom path with
  | (t, none) => t
  | (t, some place) => { t with blobs := t.blobs ++ [place] }

end FileTree

end ServiceContainer
