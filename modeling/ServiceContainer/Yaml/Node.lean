import ServiceContainer.Document

/-!
# Nodes of YAML

What a text gives before names of nodes are followed and keys are looked at.

## Main definitions

* `Node` — the nodes
* `Node.resolve` — the value of a node among the nodes named before it
-/

namespace ServiceContainer.Yaml

/-- A node of a text. -/
inductive Node where
  | value (d : Document)
  | list (items : List Node)
  | table (entries : List (Node × Node))
  /-- A node with a name. -/
  | anchor (name : String) (node : Node)
  /-- The node that has the name. -/
  | alias (name : String)
  deriving Repr

instance : Inhabited Node := ⟨.value .null⟩

/-- The values of named nodes, the latest first. -/
abbrev Anchors := List (String × Document)

/-- A key of a table. A number and its digits as a text are different keys. -/
inductive Key where
  | text (name : String)
  | integer (value : Int)
  deriving DecidableEq, Repr

/-- The key that a value is; others than texts and integers are none. -/
def Key.ofDocument? : Document → Option Key
  | .text s => some (.text s)
  | .integer n => some (.integer n)
  | _ => none

/-- The name of the field that a key stands for. -/
def Key.name : Key → String
  | .text s => s
  | .integer n => toString n

namespace Node

mutual

/-- The value of a node, and the named nodes after it. A name stands for nothing inside the node that has it. -/
def resolve (known : Anchors) : Node → Option (Document × Anchors)
  | .value .broken => none
  | .value d => some (d, known)
  | .list items => (resolveItems known items).map fun (ds, known) => (.list ds, known)
  | .table entries => (resolveEntries known [] entries).map fun (fields, known) => (.record fields, known)
  | .anchor name node => (resolve ((name, .null) :: known) node).map fun (d, known) => (d, (name, d) :: known)
  | .alias name => (known.lookup name).map (·, known)

/-- The values of nodes. -/
def resolveItems (known : Anchors) : List Node → Option (List Document × Anchors)
  | [] => some ([], known)
  | node :: rest => do
    let (d, known) ← resolve known node
    let (ds, known) ← resolveItems known rest
    return (d :: ds, known)

/-- The fields of entries after some keys, which no other entry has. -/
def resolveEntries (known : Anchors) (before : List Key) :
    List (Node × Node) → Option (List (String × Document) × Anchors)
  | [] => some ([], known)
  | (key, content) :: rest => do
    let (k, known) ← resolve known key
    let (d, known) ← resolve known content
    let k ← Key.ofDocument? k
    if before.contains k then none
    let (fields, known) ← resolveEntries known (k :: before) rest
    return ((k.name, d) :: fields, known)

end

end Node

end ServiceContainer.Yaml
