import ServiceContainer.World

/-!
# Requests

A request for a type goes to a handle. A provider of a container that has the type delivers it: from its cell, or by
making an instance, whose parameters are requests to the same provider. Making an instance that depends on itself does
not end; the number of nested makings is bounded, and a request that would go deeper has no answer.

## Main definitions

* `Attempt` — a computation that changes the world and may be refused
* `Handle.askWith` — a request, given how instances are made
* `Assembly.make` — the making of an instance, given how requests are answered
* `ask`, `Handle.get` — the two tied together
-/

namespace ServiceContainer

/-- A computation in the world that may be refused, or may not end. -/
abbrev Attempt := ExceptT DependencyError (StateT World Option)

namespace Attempt

/-- A computation that does not end. -/
def endless {α : Type} : Attempt α := ExceptT.mk fun _ => none

/-- The result or the refusal, as a result. -/
def observe {α : Type} (m : Attempt α) : Attempt (Except DependencyError α) :=
  ExceptT.mk (Functor.map Except.ok m.run)

/-- Changes the world. -/
def change (f : World → World) : Attempt Unit := modify f

/-- Changes the world with a result. -/
def changeGet {α : Type} (f : World → α × World) : Attempt α := modifyGet f

end Attempt

/-- What a request is answered with: an instance, under the type that it was delivered as. -/
structure Delivery where
  type : String
  id : Nat
  deriving DecidableEq, Repr

/-- How requests are answered. -/
abbrev Asker := Handle → String → Attempt (Option Delivery)

/-- How instances are made: by a provider of an assembly. -/
abbrev Maker := Handle → Assembly → Construct → Attempt Nat

/-- The instance of a delivery, which must be of the type that was asked for. -/
def Delivery.unwrap (d : Delivery) (type : String) : Attempt Nat :=
  if d.type == type then return d.id else throw (.typeMismatch type)

/-- A request for an instance of a type. -/
def Asker.get (ask : Asker) (h : Handle) (type : String) : Attempt (Option Nat) := do
  match ← ask h type with
  | some d => return some (← d.unwrap type)
  | none => return none

/-- A request for an instance of a type that must be there. -/
def Asker.require (ask : Asker) (h : Handle) (type : String) : Attempt Nat := do
  match ← ask.get h type with
  | some x => return x
  | none => throw (.notRegistered type)

/-! ### Making -/

/-- The arguments of a construct. -/
def Construct.arguments : Construct → List Argument
  | .constructor _ _ arguments => arguments
  | .factory .. => [.provider]
  | .unitLiteral _ | .default _ => []

/-- The type that a construct makes. -/
def Construct.implementation : Construct → TypeExpr
  | .constructor type .. | .factory type _ | .unitLiteral type | .default type => type

/-- The argument is the provider. -/
def Argument.isProvider : Argument → Bool
  | .provider => true
  | .shared _ | .cloned _ => false

/-- The construct is handed the provider. -/
def Construct.handsProvider (k : Construct) : Bool := k.arguments.any Argument.isProvider

/-- What a parameter is given by a provider. -/
def Argument.give (ask : Asker) (h : Handle) (a : Assembly) : Argument → Attempt Given
  | .shared key => return .shared (← ask.require h (a.typeName key))
  | .cloned key => return .cloned (← ask.require h (a.typeName key))
  | .provider => return .provider

/-- The answers to what the code of a construct asks for. -/
def answersTo (ask : Asker) (h : Handle) : List String → Attempt (List (Option Nat))
  | [] => return []
  | type :: rest => do
    let answer ← (ask.get h type).observe
    return answer.toOption.join :: (← answersTo ask h rest)

/-- Makes an instance by a provider. -/
def Assembly.make (ask : Asker) (h : Handle) (a : Assembly) (k : Construct) : Attempt Nat := do
  let arguments ← k.arguments.mapM (Argument.give ask h a)
  let answers ← answersTo ask h (if k.handsProvider then a.requests k else [])
  Attempt.changeGet (·.create (.built (a.typeName k.implementation) h k arguments answers))

/-! ### Asking -/

/-- The accessor of a provider that answers requests for a type. -/
def Provider.accessorFor? (p : Provider) (a : Assembly) (type : String) : Option Accessor := do
  let l ← p.lookups.find? fun l => a.typeName l.key == type
  p.accessors.find? (·.name == l.accessor)

/-- The instance that an accessor delivers: the one in its cell, which is filled first if it is empty, or a new
one. -/
def Accessor.deliver (make : Construct → Attempt Nat) (store : Nat) (accessor : Accessor) : Attempt Nat := do
  match accessor.body with
  | .memoized cell _ k =>
    match (← get).cell? store cell with
    | some x => return x
    | none =>
      let x ← make k
      Attempt.change (·.fill store cell x)
      return x
  | .fresh _ k => make k

/-- An instance that is made by a provider from outside, delivered as one of its type. -/
def Foreign.make (f : Foreign) (type : String) : Attempt Delivery :=
  return ⟨type, ← Attempt.changeGet (·.create (.given type f.name))⟩

/-- The answer of a provider from outside. -/
def Foreign.answer (f : Foreign) (type : String) : Attempt (Option Delivery) := do
  Attempt.change (·.note (.lookup f.name))
  match f.reply f.name (← get).calls type with
  | .absent => return none
  | .fresh type => return some (← f.make type)
  | .kept type =>
    match (← get).given? f.name type with
    | some id => return some ⟨type, id⟩
    | none => return some (← f.make type)
  | .refused error => throw error

mutual

/-- The answer of a handle to a request. A provider that does not have the type passes the request on to its parent;
a composition answers with the first answer of its parts that is one. -/
def Handle.askWith (make : Maker) : Handle → String → Attempt (Option Delivery)
  | .root a store, type =>
    match a.container.rootProvider.accessorFor? a type with
    | some accessor => return some ⟨type, ← accessor.deliver (make (.root a store) a) store⟩
    | none => return none
  | .scoped a parent store, type =>
    match a.container.scopedProvider.accessorFor? a type with
    | some accessor => return some ⟨type, ← accessor.deliver (make (.scoped a parent store) a) store⟩
    | none => parent.askWith make type
  | .scope _ _ inner, type => inner.askWith make type
  | .composed parts, type => askParts make parts type
  | .foreign f, type => f.answer type

/-- The first answer of some handles that is one. -/
def askParts (make : Maker) : List Handle → String → Attempt (Option Delivery)
  | [], _ => return none
  | h :: rest, type => do
    match ← h.askWith make type with
    | some d => return some d
    | none => askParts make rest type

end

/-- The answer to a request, with a bound on the number of nested makings. -/
def ask : Nat → Asker
  | 0 => fun _ _ => Attempt.endless
  | depth + 1 => Handle.askWith (Assembly.make (ask depth))

mutual

/-- The number of services that a handle knows. Makings that are nested deeper repeat one of them. -/
def Handle.services : Handle → Nat
  | .root a _ => a.container.rootProvider.accessors.length
  | .scoped a parent _ => a.container.scopedProvider.accessors.length + parent.services
  | .scope _ _ inner => inner.services
  | .composed parts => servicesOf parts
  | .foreign _ => 0

/-- The number of services that some handles know. -/
def servicesOf : List Handle → Nat
  | [] => 0
  | h :: rest => h.services + servicesOf rest

end

namespace Handle

/-- The answer to a request. -/
def lookup (h : Handle) (type : String) : Attempt (Option Delivery) := ask (h.services + 1) h type

/-- The instance of a type. -/
def get (h : Handle) (type : String) : Attempt (Option Nat) := Asker.get lookup h type

/-- The instance of a type, which must be there. -/
def require (h : Handle) (type : String) : Attempt Nat := Asker.require lookup h type

end Handle

end ServiceContainer
