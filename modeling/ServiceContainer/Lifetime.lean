/-!
# Lifetimes

## Main definitions

* `Lifetime` — how long an instance of a service lives
* `Lifetime.name`, `Lifetime.ofName?` — the names used in markers
* `Lifetime.isMemoized`, `Lifetime.belongsToRoot` — what a lifetime asks of the container
-/

namespace ServiceContainer

/-- How long an instance of a service lives: as long as the root provider, as long as a scope, or no longer than the
request that made it. -/
inductive Lifetime where
  | singleton | scoped | transient
  deriving DecidableEq, Repr

namespace Lifetime

/-- The name of a lifetime in a marker. -/
def name : Lifetime → String
  | .singleton => "singleton"
  | .scoped => "scoped"
  | .transient => "transient"

/-- All lifetimes. -/
def all : List Lifetime := [.singleton, .scoped, .transient]

/-- The lifetime of that name; there is no other spelling. -/
def ofName? (text : String) : Option Lifetime := all.find? (·.name == text)

@[simp] theorem ofName?_name (l : Lifetime) : ofName? l.name = some l := by cases l <;> rfl

theorem ofName?_eq_some {text : String} {l : Lifetime} : ofName? text = some l ↔ l.name = text := by
  constructor
  · intro h
    have hname := List.find?_some h
    exact beq_iff_eq.mp hname
  · rintro rfl
    exact ofName?_name l

theorem ofName?_eq_none {text : String} : ofName? text = none ↔ ∀ l : Lifetime, l.name ≠ text := by
  simp only [Option.eq_none_iff_forall_ne_some, ne_eq, ofName?_eq_some]

/-- An instance is kept in a cell. -/
def isMemoized : Lifetime → Bool
  | .transient => false
  | .singleton | .scoped => true

theorem isMemoized_iff {l : Lifetime} : l.isMemoized = true ↔ l ≠ .transient := by cases l <;> decide

/-- The service belongs to the root provider. -/
def belongsToRoot : Lifetime → Bool
  | .scoped => false
  | .singleton | .transient => true

theorem belongsToRoot_iff {l : Lifetime} : l.belongsToRoot = true ↔ l = .singleton ∨ l = .transient := by
  cases l <;> decide

end Lifetime

end ServiceContainer
