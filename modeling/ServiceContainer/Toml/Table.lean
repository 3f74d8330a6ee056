import ServiceContainer.Document

/-!
# Tables of a TOML document

The tables of a document are written in pieces: by headers, by the keys of their entries, and as values. How a table
came to be decides what may be added to it later.

## Main definitions

* `TableOrigin`, `Node` — tables under construction
* `Node.insert` — adds the value of a dotted key
* `Layout` — the document after some of its lines
* `Layout.open`, `Layout.openRow` — headers
-/

namespace ServiceContainer.Toml

/-- How a table came to be. -/
inductive TableOrigin where
  /-- By a header of its own. -/
  | header
  /-- By the header of a table inside it. -/
  | implied
  /-- By a dotted key. -/
  | dotted
  deriving DecidableEq, Repr

/-- A part of a document under construction. -/
inductive Node where
  | value (d : Document)
  | table (origin : TableOrigin) (entries : List (String × Node))
  /-- A list whose tables have headers of their own. -/
  | rows (tables : List Node)

namespace Node

instance : Inhabited Node := ⟨.rows []⟩

/-- The entry of a key. -/
def lookup? (key : String) (entries : List (String × Node)) : Option Node :=
  (entries.find? (·.1 == key)).map (·.2)

/-- Changes the entry of a key where it stands, or adds it at the end. -/
def put (key : String) (node : Node) : List (String × Node) → List (String × Node)
  | [] => [(key, node)]
  | (k, n) :: rest => if k == key then (k, node) :: rest else (k, n) :: put key node rest

/-- Changes the last node of a list. -/
def updateLast? {α : Type} (f : Node → Option (α × Node)) (nodes : List Node) : Option (α × List Node) := do
  let last ← nodes.getLast?
  let (x, last) ← f last
  some (x, nodes.dropLast ++ [last])

/-- Changes the table at a path, where the last table of a list stands for the list. Tables that are missing are
created. A dotted key does not lead through a table that has a header of its own. -/
def updateAt? {α : Type} (dotted : Bool) (f : Node → Option (α × Node)) : List String → Node → Option (α × Node)
  | [], node => f node
  | key :: path, .table origin entries => do
    let created : Node := .table (if dotted then .dotted else .implied) []
    let (x, child) ← match (lookup? key entries).getD created with
      | .value _ => none
      | .rows tables => do
        let (x, tables) ← updateLast? (updateAt? dotted f path) tables
        some (x, Node.rows tables)
      | .table .header inner =>
        if dotted then none else updateAt? dotted f path (.table .header inner)
      | child => updateAt? dotted f path child
    some (x, .table origin (put key child entries))
  | _ :: _, _ => none

/-- Adds an entry under a new key. -/
def add? (key : String) (node : Node) : Node → Option (Unit × Node)
  | .table origin entries =>
    if (lookup? key entries).isSome then none else some ((), .table origin (entries ++ [(key, node)]))
  | _ => none

/-- The node is a table that came to be by a dotted key. -/
def isDotted : Node → Bool
  | .table .dotted _ => true
  | _ => false

/-- Adds a value under a dotted key, whose tables must all come from dotted keys. -/
def insert? (path : List String) (key : String) (d : Document) (node : Node) : Option Node :=
  let put (target : Node) : Option (Unit × Node) :=
    if target.isDotted == path.isEmpty then none else add? key (.value d) target
  (updateAt? true put path node).map (·.2)

mutual

/-- The document that a node is. -/
def document : Node → Document
  | .value d => d
  | .table _ entries => .record (documents entries)
  | .rows tables => .list (rowDocuments tables)

/-- The documents of the entries of a table. -/
def documents : List (String × Node) → List (String × Document)
  | [] => []
  | (key, node) :: rest => (key, node.document) :: documents rest

/-- The documents of the tables of a list. -/
def rowDocuments : List Node → List Document
  | [] => []
  | node :: rest => node.document :: rowDocuments rest

end

end Node

/-- A header: where the table stands, its key, and whether it is the next table of a list. -/
structure Header where
  path : List String
  key : String
  isRow : Bool

/-- A document after some of its lines: the tables that are finished, and the one that lines add to. The latter is
the document itself before the first header. -/
structure Layout where
  finished : Node
  current : Node
  header : Option Header

namespace Layout

/-- A document without lines. -/
def empty : Layout := ⟨.table .header [], .table .header [], none⟩

/-- Adds a finished table to the list under a key. -/
def addRow? (key : String) (table : Node) : Node → Option (Unit × Node)
  | .table origin entries =>
    match Node.lookup? key entries with
    | none => some ((), .table origin (Node.put key (.rows [table]) entries))
    | some (.rows tables) => some ((), .table origin (Node.put key (.rows (tables ++ [table])) entries))
    | some _ => none
  | _ => none

/-- The document with its current table finished. -/
def close? (l : Layout) : Option Node :=
  match l.header with
  | none => some l.current
  | some h =>
    let put := if h.isRow then addRow? h.key l.current else Node.add? h.key l.current
    (Node.updateAt? false put h.path l.finished).map (·.2)

/-- Takes the table of a key out of a table, which it may be part of only as an implied one. -/
def takeTable? (key : String) : Node → Option (Node × Node)
  | .table origin entries =>
    match Node.lookup? key entries with
    | none => some (.table .header [], .table origin entries)
    | some (.table .implied inner) =>
      some (.table .header inner, .table origin (entries.filter (·.1 != key)))
    | some _ => none
  | _ => none

/-- Makes the list of a key part of a table. -/
def reserveRows? (key : String) : Node → Option (Node × Node)
  | .table origin entries =>
    match Node.lookup? key entries with
    | none => some (.table .header [], .table origin (Node.put key (.rows []) entries))
    | some (.rows _) => some (.table .header [], .table origin entries)
    | some _ => none
  | _ => none

/-- The document after a header. -/
def open? (h : Header) (l : Layout) : Option Layout := do
  let root ← l.close?
  let start := if h.isRow then reserveRows? h.key else takeTable? h.key
  let (table, root) ← Node.updateAt? false start h.path root
  some ⟨root, table, some h⟩

/-- The document after an entry. -/
def insert? (path : List String) (key : String) (d : Document) (l : Layout) : Option Layout :=
  (l.current.insert? path key d).map fun current => { l with current }

end Layout

end ServiceContainer.Toml
