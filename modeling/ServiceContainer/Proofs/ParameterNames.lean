import ServiceContainer.Generation

/-!
# Names of parameters

The name of a parameter is seen in one message only: that of the error about a parameter that nothing can supply.
Declarations that differ in the names of parameters therefore lead to the same container with the same findings, or to
errors of the same kind.

## Main definitions

* `Declaration.nameless` — a declaration without the names of its parameters
* `Alike`, `Noted.Alike` — results that agree, and errors of the same kind

## Main statements

* `Noted.Alike.bind` — one computation after another
* `candidates_nameless` — candidates among declarations without names of parameters
* `generate_alike` — generations for declarations that differ in the names of parameters
-/

namespace ServiceContainer

/-! ### Results that agree -/

/-- Two results that are related, the same error twice, or two errors about declarations, whose reasons may differ. -/
inductive Alike {α β : Type} (R : α → β → Prop) : Except GenerationError α → Except GenerationError β → Prop where
  | ok {x : α} {y : β} (h : R x y) : Alike R (.ok x) (.ok y)
  | same (e : GenerationError) : Alike R (.error e) (.error e)
  | invalid (reason reason' : String) :
    Alike R (.error (.invalidDeclaration reason)) (.error (.invalidDeclaration reason'))

namespace Alike

variable {α β γ : Type} {R : α → α → Prop} {x y z : Except GenerationError α}

theorem refl (hR : ∀ a, R a a) : ∀ x : Except GenerationError α, Alike R x x
  | .ok a => .ok (hR a)
  | .error e => .same e

theorem symm (h : Alike Eq x y) : Alike Eq y x := by
  cases h with
  | ok h => exact .ok h.symm
  | same e => exact .same e
  | invalid reason reason' => exact .invalid reason' reason

theorem trans (h : Alike Eq x y) (h' : Alike Eq y z) : Alike Eq x z := by
  cases h with
  | ok h =>
    subst h
    exact h'
  | same e => exact h'
  | invalid reason reason' =>
    cases h' with
    | same => exact .invalid reason reason'
    | invalid _ reason'' => exact .invalid reason reason''

theorem map {S : β → β → Prop} {f : α → β} (h : Alike R x y) (hf : ∀ a b, R a b → S (f a) (f b)) :
    Alike S (x.map f) (y.map f) := by
  cases h with
  | ok h => exact .ok (hf _ _ h)
  | same e => exact .same e
  | invalid reason reason' => exact .invalid reason reason'

theorem bind {S : β → γ → Prop} {T : α → α → Prop} {f : α → Except GenerationError β}
    {g : α → Except GenerationError γ} (h : Alike T x y) (hfg : ∀ a b, T a b → Alike S (f a) (g b)) :
    Alike S (x >>= f) (y >>= g) := by
  cases h with
  | ok h => exact hfg _ _ h
  | same e => exact .same e
  | invalid reason reason' => exact .invalid reason reason'

/-- A function for each element of two lists, which agree element by element. -/
theorem mapM {f g : γ → Except GenerationError α} (h : ∀ c, Alike Eq (f c) (g c)) (cs : List γ) :
    Alike Eq (cs.mapM f) (cs.mapM g) := by
  induction cs with
  | nil => exact .ok rfl
  | cons c rest ih =>
    rw [List.mapM_cons, List.mapM_cons]
    refine (h c).bind fun a b hab => ih.bind fun as bs habs => ?_
    rw [hab, habs]
    exact .ok rfl

end Alike

/-- The computations note the same, and their results agree. -/
structure Noted.Alike {α β : Type} (R : α → β → Prop) (m : Noted α) (n : Noted β) : Prop where
  notes : m.notes = n.notes
  outcome : ServiceContainer.Alike R m.outcome n.outcome

namespace Noted.Alike

variable {α β γ δ : Type} {R : α → β → Prop} {S : γ → δ → Prop} {m : Noted α} {n : Noted β}

theorem refl (m : Noted α) : Noted.Alike Eq m m := ⟨rfl, .refl (fun _ => rfl) _⟩

theorem pure {a : α} {b : β} (h : R a b) : Noted.Alike R (Pure.pure a) (Pure.pure b) := ⟨rfl, .ok h⟩

theorem ofExcept {x : Except GenerationError α} {y : Except GenerationError β} (h : ServiceContainer.Alike R x y) :
    Noted.Alike R (.ofExcept x) (.ofExcept y) :=
  ⟨rfl, h⟩

theorem bind {f : α → Noted γ} {g : β → Noted δ} (h : Noted.Alike R m n)
    (hfg : ∀ a b, R a b → Noted.Alike S (f a) (g b)) : Noted.Alike S (m >>= f) (n >>= g) := by
  obtain ⟨notes, outcome⟩ := m
  obtain ⟨notes', outcome'⟩ := n
  obtain ⟨rfl, h⟩ := h
  cases h with
  | @ok a b hab =>
    have hsame := hfg a b hab
    rw [bind_ok f rfl, bind_ok g rfl]
    exact ⟨congrArg (notes ++ ·) hsame.notes, hsame.outcome⟩
  | same e => exact ⟨rfl, .same e⟩
  | invalid reason reason' => exact ⟨rfl, .invalid reason reason'⟩

end Noted.Alike

/-! ### Declarations without names of parameters -/

/-- The parameter without its name. -/
def Parameter.nameless (p : Parameter) : Parameter := { p with name := "" }

/-- The constructor without the names of its parameters. -/
def Constructor.nameless (c : Constructor) : Constructor := { c with parameters := c.parameters.map Parameter.nameless }

/-- The method without the names of its parameters. -/
def Method.nameless (m : Method) : Method := { m with parameters := m.parameters.map Parameter.nameless }

/-- The declaration without the names of parameters. -/
def Declaration.nameless (d : Declaration) : Declaration :=
  { d with constructor := d.constructor.map Constructor.nameless, methods := d.methods.map Method.nameless }

/-- The candidate without the names of parameters. -/
def Candidate.nameless (c : Candidate) : Candidate := { c with declaration := c.declaration.nameless }

section

variable (ds : List Declaration) (d : Declaration)

theorem findDeclaration?_nameless (reference : TypeExpr) : findDeclaration? (ds.map Declaration.nameless) reference =
    (findDeclaration? ds reference).map Declaration.nameless := by
  cases hname : reference.simpleName? with
  | none => simp [findDeclaration?, hname]
  | some name =>
    simp only [findDeclaration?, hname, Option.bind_eq_bind, Option.bind_some, List.find?_map]
    rfl

theorem markersOf_nameless (reference : TypeExpr) :
    markersOf (ds.map Declaration.nameless) reference = markersOf ds reference := by
  rw [markersOf, markersOf, findDeclaration?_nameless]
  cases findDeclaration? ds reference with
  | none => rfl
  | some d => rfl

theorem markerSources_nameless : markerSources (ds.map Declaration.nameless) d.nameless = markerSources ds d := by
  simp only [markerSources, markersOf_nameless]
  rfl

theorem ofDeclaration?_nameless : Candidate.ofDeclaration? (ds.map Declaration.nameless) d.nameless =
    (Candidate.ofDeclaration? ds d).map Candidate.nameless := by
  have habstract : d.nameless.isAbstract = d.isAbstract := rfl
  rw [Candidate.ofDeclaration?, Candidate.ofDeclaration?, habstract, markerSources_nameless]
  split
  · rfl
  · cases markerSources ds d with
    | nil => rfl
    | cons primary others => rfl

theorem candidates_nameless :
    candidates (ds.map Declaration.nameless) = (candidates ds).map Candidate.nameless := by
  rw [candidates, candidates, List.filterMap_map, List.map_filterMap]
  congr 1
  funext d
  exact ofDeclaration?_nameless ds d

/-! ### The parts of a generation -/

/-- The only place that shows the name of a parameter is the reason of an error. -/
theorem ofParameter_nameless (p : Parameter) :
    Alike Eq (Argument.ofParameter d.nameless p.nameless) (Argument.ofParameter d p) := by
  have htype : p.nameless.type.replaceSelf d.nameless.type = p.type.replaceSelf d.type := rfl
  rw [Argument.ofParameter, Argument.ofParameter, htype]
  split
  · exact .ok rfl
  · split
    · exact .invalid _ _
    · exact .refl (fun _ => rfl) _

theorem hasFactoryShape_nameless (m : Method) : hasFactoryShape d.nameless m.nameless = hasFactoryShape d m := by
  obtain ⟨name, isStatic, isFactory, parameters, returns⟩ := m
  -- The shape depends on how many parameters there are.
  match parameters with
  | [] => rfl
  | [p] => rfl
  | p :: q :: rest => rfl

theorem chooseFactory_nameless (ms : List Method) :
    Noted.Alike (fun m n => m = n.map Method.nameless) (chooseFactory d.nameless (ms.map Method.nameless))
      (chooseFactory d ms) := by
  induction ms with
  | nil => exact .pure rfl
  | cons m rest ih =>
    rw [List.map_cons, chooseFactory, chooseFactory, hasFactoryShape_nameless]
    split
    · exact .pure rfl
    · exact (Noted.Alike.refl _).bind fun _ _ _ => ih

theorem factoryMethods_nameless : factoryMethods d.nameless = (factoryMethods d).map Method.nameless := by
  simp only [factoryMethods, Declaration.staticMethods, Declaration.nameless, List.filter_map]
  rfl

theorem arguments_nameless (c : Constructor) :
    Alike Eq (c.nameless.parameters.mapM (Argument.ofParameter d.nameless))
      (c.parameters.mapM (Argument.ofParameter d)) := by
  change Alike Eq ((c.parameters.map Parameter.nameless).mapM _) _
  rw [List.mapM_map]
  exact .mapM (ofParameter_nameless d) c.parameters

theorem construction_nameless :
    Noted.Alike Eq (Construction.ofDeclaration d.nameless) (Construction.ofDeclaration d) := by
  have hconstructor : d.nameless.constructor = d.constructor.map Constructor.nameless := rfl
  rw [Construction.ofDeclaration, Construction.ofDeclaration, factoryMethods_nameless, hconstructor]
  refine (chooseFactory_nameless d _).bind ?_
  rintro _ (_ | m) rfl
  · cases d.constructor with
    | none => exact .pure rfl
    | some c =>
      refine (Noted.Alike.ofExcept (arguments_nameless d c)).bind ?_
      rintro arguments _ rfl
      exact .pure rfl
  · exact .pure rfl

theorem ofCandidate_nameless (strict : Bool) (c : Candidate) :
    Noted.Alike Eq (Registration.ofCandidate strict c.nameless) (Registration.ofCandidate strict c) := by
  refine (Noted.Alike.refl _).bind ?_
  rintro lifetime _ rfl
  refine (Noted.Alike.refl _).bind fun _ _ _ => (Noted.Alike.refl _).bind fun _ _ _ => ?_
  refine (construction_nameless c.declaration).bind ?_
  rintro construction _ rfl
  exact .pure rfl

theorem registrations_nameless (strict : Bool) (cs : List Candidate) :
    Noted.Alike Eq (registrations strict (cs.map Candidate.nameless)) (registrations strict cs) := by
  induction cs with
  | nil => exact .refl _
  | cons c rest ih =>
    refine (ofCandidate_nameless strict c).bind ?_
    rintro r _ rfl
    refine ih.bind ?_
    rintro more _ rfl
    exact .pure rfl

theorem compose_nameless (o : Options) :
    Noted.Alike Eq (compose o (ds.map Declaration.nameless)) (compose o ds) := by
  rw [compose, compose, candidates_nameless]
  refine (registrations_nameless _ _).bind ?_
  rintro rs _ rfl
  exact .refl _

theorem generate_nameless (o : Options) : Alike Eq (generate o (ds.map Declaration.nameless)) (generate o ds) := by
  cases hvalid : o.validate with
  | error e =>
    rw [generate, generate, hvalid]
    exact .same _
  | ok _ =>
    have hcompose := compose_nameless ds o
    rw [generate_of_validate hvalid, generate_of_validate hvalid, hcompose.notes]
    exact hcompose.outcome.map fun a b hab => by rw [hab]

end

/-- Declarations that differ in the names of parameters only lead to the same container or to errors of the same
kind. -/
theorem generate_alike {ds ds' : List Declaration} (h : ds.map Declaration.nameless = ds'.map Declaration.nameless)
    (o : Options) : Alike Eq (generate o ds) (generate o ds') :=
  (generate_nameless ds o).symm.trans (h ▸ generate_nameless ds' o)

end ServiceContainer
