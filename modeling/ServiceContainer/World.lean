import ServiceContainer.Container
import ServiceContainer.Error

/-!
# Running containers

Containers at work. A handle is a value that tells how a request is answered; what changes over time is the world:
which cells hold which instances, and which scopes have ended. Handles that share cells or scopes share their numbers.

## Main definitions

* `Assembly` — a container with the code of its services
* `Foreign` — a provider from outside, with whatever code
* `Handle` — a provider that can be asked
* `Instance` — a service that was made, and from what
* `World` — the state
-/

namespace ServiceContainer

/-- A container with what is known of the code of its services. -/
structure Assembly where
  container : Container
  /-- The type that a type expression of the container stands for, by its full name. -/
  typeName : TypeExpr → String
  /-- The types that the code of a construct asks the provider for that it is handed, in this order. Code is modelled as
  far as this: it asks for the same types on every making and goes on whatever the answers are. -/
  requests : Construct → List String

/-- A call of a provider from outside. -/
inductive Call where
  | lookup (name : String)
  | scope (name : String)
  | dispose (name : String)
  deriving DecidableEq, Repr

/-- What a provider from outside makes of a request. -/
inductive Reply where
  | absent
  /-- A new instance, delivered as one of the type. -/
  | fresh (type : String)
  /-- The first instance that the provider made of the type, which is made if there is none, delivered as one of the
  type. -/
  | kept (type : String)
  | refused (error : DependencyError)
  deriving DecidableEq, Repr

/-- A provider from outside, which no container has been generated for. Its code is a parameter: what a provider of its
name replies to a request for a type, after the calls of providers from outside so far. A scope of it has the same code
under another name, so it can reply otherwise. -/
structure Foreign where
  name : String
  reply : String → List Call → String → Reply

/-- A provider that can be asked. -/
inductive Handle where
  /-- The root provider of a container with its cells. -/
  | root (assembly : Assembly) (store : Nat)
  /-- The scoped provider of a container over any provider, with its cells. -/
  | scoped (assembly : Assembly) (parent : Handle) (store : Nat)
  /-- A scope around a provider; an owner disposes of it when it ends. -/
  | scope (id : Nat) (owner : Bool) (inner : Handle)
  /-- Several providers, asked in order. -/
  | composed (parts : List Handle)
  | foreign (provider : Foreign)

/-- What a parameter was given. -/
inductive Given where
  /-- An instance, shared. -/
  | shared (source : Nat)
  /-- A copy of the value of an instance. -/
  | cloned (source : Nat)
  /-- The provider that makes the service. -/
  | provider
  deriving DecidableEq, Repr

/-- The instance that a parameter was given. -/
def Given.source? : Given → Option Nat
  | .shared id | .cloned id => some id
  | .provider => none

/-- A service that was made. -/
inductive Instance where
  /-- Made by a provider of a container; `answers` are the instances that its code was answered with. -/
  | built (type : String) (maker : Handle) (construct : Construct) (arguments : List Given)
      (answers : List (Option Nat))
  /-- Made by a provider from outside of a name. -/
  | given (type : String) (name : String)

/-- The full name of the type of an instance. -/
def Instance.type : Instance → String
  | .built type .. => type
  | .given type _ => type

/-- The state: all instances, the cells that are filled, the scopes that have ended, the disposals and the calls of
providers from outside so far. -/
structure World where
  instances : List Instance := []
  cells : List ((Nat × String) × Nat) := []
  /-- The number of the next store of cells. -/
  nextStore : Nat := 0
  /-- The number of the next scope. -/
  nextScope : Nat := 0
  ended : List Nat := []
  disposals : List Nat := []
  calls : List Call := []

namespace World

/-- The instance in a cell. -/
def cell? (w : World) (store : Nat) (cell : String) : Option Nat :=
  (w.cells.find? (·.1 == (store, cell))).map (·.2)

/-- The world with an instance in an empty cell. -/
def fill (w : World) (store : Nat) (cell : String) (x : Nat) : World :=
  { w with cells := w.cells ++ [((store, cell), x)] }

/-- The world with one more instance, and its number. -/
def create (w : World) (x : Instance) : Nat × World :=
  (w.instances.length, { w with instances := w.instances ++ [x] })

/-- The first instance that providers from outside of a name made of a type. -/
def given? (w : World) (name type : String) : Option Nat :=
  w.instances.findIdx? fun x => match x with
    | .given type' name' => name' == name && type' == type
    | .built .. => false

/-- The world after a call of a provider from outside. -/
def note (w : World) (c : Call) : World := { w with calls := w.calls ++ [c] }

/-- The world with new cells, and their number. -/
def newStore (w : World) : Nat × World := (w.nextStore, { w with nextStore := w.nextStore + 1 })

/-- The world with a new scope, and its number. -/
def newScope (w : World) : Nat × World := (w.nextScope, { w with nextScope := w.nextScope + 1 })

end World

end ServiceContainer
