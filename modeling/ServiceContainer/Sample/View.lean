import ServiceContainer.Sample.Assemblies

/-!
# Sample containers: what can be seen

What the instances of the sample containers show of themselves, and what a step of a run shows: instances get numbers
in the order in which they are first seen.

## Main definitions

* `View`, `Sample.view` — what an instance shows
* `Watch` — a run under observation
* `Watch.perform`, `Watch.close` — what a step shows, and the end of a run
-/

namespace ServiceContainer

/-- What an instance shows. -/
inductive View where
  | text (value : String)
  | number (value : Nat)
  | flag (value : Bool)
  | list (items : List View)
  | record (fields : List (String × View))
  /-- Another instance. -/
  | reference (id : Nat)

namespace View

mutual

/-- The view with numbers for instances, after those that were seen before. -/
def numbered (seen : List Nat) : View → List Nat × View
  | .reference id =>
    if seen.contains id then (seen, .reference (seen.idxOf id)) else (seen ++ [id], .reference seen.length)
  | .list items => let (seen, items) := numberedItems seen items; (seen, .list items)
  | .record fields => let (seen, fields) := numberedFields seen fields; (seen, .record fields)
  | v => (seen, v)

/-- The views of items with numbers for instances. -/
def numberedItems (seen : List Nat) : List View → List Nat × List View
  | [] => (seen, [])
  | v :: rest =>
    let (seen, v) := v.numbered seen
    let (seen, rest) := numberedItems seen rest
    (seen, v :: rest)

/-- The views of fields with numbers for instances. -/
def numberedFields (seen : List Nat) : List (String × View) → List Nat × List (String × View)
  | [] => (seen, [])
  | (name, v) :: rest =>
    let (seen, v) := v.numbered seen
    let (seen, rest) := numberedFields seen rest
    (seen, (name, v) :: rest)

end

end View

namespace Sample

variable (w : World)

/-- The instance of a number. -/
def instance? (id : Nat) : Option Instance := w.instances[id]?

/-- The instance that a parameter of an instance was given. -/
def argument? (id position : Nat) : Option Nat :=
  match instance? w id with
  | some (.built _ _ _ arguments _) => arguments[position]?.bind Given.source?
  | _ => none

/-- What the code of an instance was answered with. -/
def answer? (id position : Nat) : Option Nat :=
  match instance? w id with
  | some (.built _ _ _ _ answers) => answers[position]?.join
  | _ => none

/-- The instance was made by a factory. -/
def byFactory (id : Nat) : Bool :=
  match instance? w id with
  | some (.built _ _ (.factory _ _) _ _) => true
  | _ => false

/-- How an instance was made, as it shows itself. -/
def sourceText (id : Nat) : String := if byFactory w id then "factory" else "constructor"

/-- What a greeter says. -/
def greeting : String := "hello"

/-- What a clock shows. -/
def tick : Nat := 42

/-- What a logger makes of a message. -/
def logged (message : String) : String := "[" ++ toString tick ++ "] " ++ message

/-- The database of a configuration. -/
def configuredDatabase : String := "orders"

/-- The database of a connection: that of the configuration, if there was one. -/
def database (id : Nat) : String := if (answer? w id 0).isSome then configuredDatabase else ""

/-- A connection is closed when it was disposed of. -/
def isClosed (id : Nat) : Bool := w.disposals.contains id

/-- What a connection shows. -/
def connectionView (id : Nat) : View := .list [.text (database w id), .flag (isClosed w id)]

/-- Another instance as a field. -/
def referenceField (name : String) (id : Option Nat) : List (String × View) :=
  id.toList.map fun id => (name, .reference id)

/-- What an instance of a type with a short name shows. -/
def viewOf (id : Nat) (short : String) : View :=
  match short with
  | "Ticket" | "Session" => .record (referenceField "clock" (argument? w id 0))
  | "English" => .text greeting
  | "Settings" | "Counter" => .text (sourceText w id)
  | "Report" =>
    .record (("text", .text (greeting ++ " (" ++ (((argument? w id 0).map (sourceText w)).getD "") ++ ")"))
      :: referenceField "greeter" (argument? w id 1))
  | "Workspace" =>
    .list [.text (if (answer? w id 0).isSome then greeting else ""), .flag (answer? w id 1).isSome]
  | "OrderRepository" | "custom.Router" => .list []
  | "custom.Request" => .text ""
  | "svc.Clock" | "svc.Stamp" => .number tick
  | "svc.Config" => .text configuredDatabase
  | "svc.ConsoleLogger" => .text (logged "ready")
  | "svc.Connection" => connectionView w id
  | "svc.Request" =>
    let connection := argument? w id 0
    .record (referenceField "connection" connection
      ++ connection.toList.map (fun c => ("shown", connectionView w c))
      ++ referenceField "logger" (argument? w id 1)
      ++ [("config", .text configuredDatabase),
          ("text", .text (logged ((connection.map (database w)).getD "")))])
  | _ => .text short

/-- What an instance shows. -/
def view (id : Nat) : View :=
  match instance? w id with
  | some (.given type name) =>
    if type == "str" then .text name
    else if type == "u8" then .number (name.utf8ByteSize % 256)
    else .text (shortName type)
  | some x => viewOf w id (shortName x.type)
  | none => .list []

/-- The types whose disposals are counted. -/
def countedTypes : List String := ["Session", "Cache", "Ticket"]

/-- The number of disposals of each counted type among some. -/
def countDisposals (disposals : List Nat) : List Nat :=
  let types := disposals.map fun id => ((instance? w id).map fun x => shortName x.type).getD ""
  countedTypes.map fun t => types.count t

/-- The instance is a connection. -/
def isConnection (id : Nat) : Bool :=
  ((instance? w id).map fun x => shortName x.type) == some "svc.Connection"

end Sample

/-! ### Observation -/

/-- What a step shows: what comes of it, the number and the view of the instance that it finds, the calls of
providers from outside, the disposals of counted types, and the connections seen before that it closed. -/
structure Sighting where
  outcome : Outcome
  found : Option (Nat × View) := none
  calls : List Call := []
  disposed : List Nat := []
  closed : List Nat := []

/-- A run under observation: the stage, and the instances seen so far. -/
structure Watch where
  stage : Stage := {}
  seen : List Nat := []

namespace Watch

/-- What the world shows of a step between two states of it. -/
def sighting (seen : List Nat) (before after : World) (outcome : Outcome) : Sighting where
  outcome := outcome
  calls := after.calls.drop before.calls.length
  disposed := Sample.countDisposals after (after.disposals.drop before.disposals.length)
  closed := (seen.filter fun id =>
    Sample.isConnection after id && Sample.isClosed after id && !Sample.isClosed before id).map seen.idxOf

/-- Performs a step and shows what it shows. -/
def perform (x : Watch) (step : Step) : Watch × Sighting :=
  let (stage, outcome) := x.stage.perform step
  let s := sighting x.seen x.stage.world stage.world outcome
  match outcome with
  | .found id =>
    let seen := (View.numbered x.seen (.reference id)).1
    let (all, view) := (Sample.view stage.world id).numbered seen
    (⟨stage, all⟩, { s with found := some (seen.idxOf id, view) })
  | _ => ({ x with stage }, s)

/-- What a step shows that cannot be read. -/
def refuse (x : Watch) : Watch × Sighting := (x, { outcome := .bad, disposed := Sample.countDisposals {} [] })

/-- Ends the run and shows what that shows. -/
def close (x : Watch) : Sighting := sighting x.seen x.stage.world x.stage.close .done

end Watch

end ServiceContainer
