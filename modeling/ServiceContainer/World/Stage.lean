import ServiceContainer.World.Lookup
import ServiceContainer.World.Scope

/-!
# Runs

A run is a list of steps on handles with names. A step that makes a handle gives it a name; a handle that had the name
before is released. A step that cannot be done is bad and changes nothing.

## Main definitions

* `Step`, `Outcome` — steps and what comes of them
* `Stage` — a world with the handles that have names
* `Stage.perform`, `Stage.close` — one step, and the end of a run
-/

namespace ServiceContainer

/-- A step of a run. The last name of a step that makes a handle is the name of that handle. -/
inductive Step where
  /-- A new root provider. -/
  | root (assembly : Assembly) (name : String)
  /-- Another handle on a root provider. -/
  | clone (source : String) (name : String)
  /-- A scoped provider with new cells over a handle. -/
  | scoped (assembly : Assembly) (parent : String) (name : String)
  /-- A provider from outside. -/
  | foreign (provider : Foreign) (name : String)
  /-- A new scope on a handle. -/
  | scope (source : String) (name : String)
  /-- A new scope on the provider inside a scope. -/
  | innerScope (source : String) (name : String)
  /-- A scope that takes a handle over. -/
  | own (source : String) (name : String)
  /-- A scope that shares a handle. -/
  | nest (source : String) (name : String)
  /-- A composition that takes handles over, which have different names. -/
  | compose (sources : List String) (name : String)
  | get (source : String) (type : String)
  | require (source : String) (type : String)
  | dispose (source : String)
  /-- Ends a scope that no other handle leads to. -/
  | finish (source : String)
  | drop (source : String)
  | inspect (source : String)

/-- What comes of a step. -/
inductive Outcome where
  | done
  | bad
  /-- The instance that was asked for is not there. -/
  | absent
  | found (id : Nat)
  | refused (error : DependencyError)
  /-- The request did not end. -/
  | endless
  | scopeState (owner ended : Bool)
  | composedState (size : Nat)
  deriving DecidableEq, Repr

/-- The text that shows the state of a scope. -/
def scopeText (owner ended : Bool) : String :=
  let flag (b : Bool) : String := if b then "true" else "false"
  "ServiceScope \x7b provider: \"<provider>\", owns_provider: " ++ flag owner ++ ", disposed: " ++ flag ended ++ " \x7d"

/-- The text that shows a composition of some providers. -/
def compositionText (size : Nat) : String := "ComposedServiceProvider \x7b providers: " ++ toString size ++ " \x7d"

/-- A world with the handles that have names, in the order in which they were made. -/
structure Stage where
  world : World := {}
  handles : List (String × Handle) := []

namespace Stage

/-- The handle of a name. -/
def handle? (s : Stage) (name : String) : Option Handle := (s.handles.find? (·.1 == name)).map (·.2)

/-- The handles without the one of a name. -/
def without (s : Stage) (name : String) : List (String × Handle) := s.handles.filter (·.1 != name)

/-- The stage on which a handle has a name, and the one that had it is released. -/
def put (s : Stage) (name : String) (h : Handle) : Stage :=
  let handles := s.without name ++ [(name, h)]
  match s.handle? name with
  | some old => ⟨s.world.release old (handles.map (·.2)), handles⟩
  | none => { s with handles }

/-- The stage without the handle of a name, which another one takes over. -/
def take (s : Stage) (name : String) : Stage := { s with handles := s.without name }

/-- The stage on which the handle of a name is released. -/
def drop (s : Stage) (name : String) (h : Handle) : Stage :=
  let handles := s.without name
  ⟨s.world.release h (handles.map (·.2)), handles⟩

/-- The handles of names in order and the stage without them, if every name has one and no two are the same. -/
def takeAll? (s : Stage) : List String → Option (Stage × List Handle)
  | [] => some (s, [])
  | name :: rest => do
    let h ← s.handle? name
    let (s, handles) ← (s.take name).takeAll? rest
    some (s, h :: handles)

/-- What comes of a request. -/
def outcomeOf (answer : Except DependencyError (Option Nat)) : Outcome :=
  match answer with
  | .ok (some id) => .found id
  | .ok none => .absent
  | .error e => .refused e

/-- Makes a request. -/
def request (s : Stage) (attempt : Attempt (Option Nat)) : Stage × Outcome :=
  match attempt.run s.world with
  | some (answer, world) => ({ s with world }, outcomeOf answer)
  | none => (s, .endless)

/-- Another handle than the one of a name leads to a scope. -/
def isShared (s : Stage) (name : String) (id : Nat) : Bool :=
  (scopesOf ((s.without name).map (·.2))).any (·.1 == id)

/-- Does something with the handle of a name. -/
def onHandle (s : Stage) (name : String) (f : Handle → Stage × Outcome) : Stage × Outcome :=
  match s.handle? name with
  | some h => f h
  | none => (s, .bad)

/-- Performs a step. -/
def perform (s : Stage) : Step → Stage × Outcome
  | .root a name =>
    let (store, world) := s.world.newStore
    ({ s with world }.put name (.root a store), .done)
  | .clone source name => s.onHandle source fun h =>
    match h with
    | .root a store => (s.put name (.root a store), .done)
    | _ => (s, .bad)
  | .scoped a parent name => s.onHandle parent fun h =>
    let (store, world) := s.world.newStore
    ({ s with world }.put name (.scoped a h store), .done)
  | .foreign f name => (s.put name (.foreign f), .done)
  | .scope source name => s.onHandle source fun h =>
    let (scope, world) := h.createScope s.world
    ({ s with world }.put name scope, .done)
  | .innerScope source name => s.onHandle source fun h =>
    match h with
    | .scope _ _ inner =>
      let (scope, world) := inner.createScope s.world
      ({ s with world }.put name scope, .done)
    | _ => (s, .bad)
  | .own source name => s.onHandle source fun h =>
    let (id, world) := s.world.newScope
    ({ s.take source with world }.put name (.scope id true h), .done)
  | .nest source name => s.onHandle source fun h =>
    let (id, world) := s.world.newScope
    ({ s with world }.put name (.scope id false h), .done)
  | .compose sources name =>
    match s.takeAll? sources with
    | some (taken, parts) => (taken.put name (.composed parts), .done)
    | none => (s, .bad)
  | .get source type => s.onHandle source fun h => s.request (h.get type)
  | .require source type => s.onHandle source fun h => s.request (some <$> h.require type)
  | .dispose source => s.onHandle source fun h => ({ s with world := h.dispose s.world }, .done)
  | .finish source => s.onHandle source fun h =>
    match h with
    | .scope id _ _ => if s.isShared source id then (s, .bad) else (s.drop source h, .done)
    | _ => (s, .bad)
  | .drop source => s.onHandle source fun h => (s.drop source h, .done)
  | .inspect source => s.onHandle source fun h =>
    match h with
    | .scope id owner _ => (s, .scopeState owner (s.world.ended.contains id))
    | .composed parts => (s, .composedState parts.length)
    | _ => (s, .bad)

/-- The world after all handles have been released in order. -/
def close (s : Stage) : World := s.world.releaseAll [] (s.handles.map (·.2))

end Stage

end ServiceContainer
