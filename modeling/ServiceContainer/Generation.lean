import ServiceContainer.Container.Layout
import ServiceContainer.Container.Source
import ServiceContainer.Report

/-!
# Generation

The way from declarations to the container: candidates, registrations, layout, source. Any error ends it.

## Main definitions

* `Generated` — the result of a generation
* `generate` — the generation
-/

namespace ServiceContainer

/-- The result of a generation. -/
structure Generated where
  module : List Syntax.Tree
  registrations : List Registration
  diagnostics : List Diagnostic
  moduleName : String

/-- The text of the generated file. -/
def Generated.source (g : Generated) : String := fileText g.module

/-- The table of the services. -/
def Generated.report (g : Generated) : Report := .ofRegistrations g.moduleName g.registrations

/-- The registrations of declarations and the container of these. -/
def compose (o : Options) (ds : List Declaration) : Noted (List Registration × Container) := do
  let rs ← registrations o.strictMarkers (candidates ds)
  return (rs, ← Container.ofRegistrations o rs)

/-- Generates a container for the declarations, with valid options. -/
def generate (o : Options) (ds : List Declaration) : Except GenerationError Generated := do
  match o.validate with
  | .error e => throw (.config e)
  | .ok () =>
    let result := compose o ds
    let (rs, c) ← result.outcome
    return ⟨c.moduleTrees, rs, result.notes, o.moduleName⟩

section

variable {o : Options} {ds : List Declaration}

theorem generate_of_validate (h : o.validate = .ok ()) :
    generate o ds = (compose o ds).outcome.map fun x => ⟨x.2.moduleTrees, x.1, (compose o ds).notes, o.moduleName⟩ := by
  rw [generate, h]
  rfl

theorem generate_eq_ok {g : Generated} : generate o ds = .ok g ↔ o.validate = .ok () ∧
    ∃ rs c, (compose o ds).outcome = .ok (rs, c) ∧ g = ⟨c.moduleTrees, rs, (compose o ds).notes, o.moduleName⟩ := by
  cases hvalid : o.validate with
  | error e => simp [generate, hvalid]
  | ok _ =>
    rw [generate_of_validate hvalid, and_iff_right rfl]
    cases (compose o ds).outcome with
    | error e => simp [Except.map]
    | ok x =>
      constructor
      · exact fun h => ⟨x.1, x.2, rfl, (Except.ok.inj h).symm⟩
      · rintro ⟨rs, c, hx, rfl⟩
        rw [Except.ok.inj hx]
        rfl

end

end ServiceContainer
