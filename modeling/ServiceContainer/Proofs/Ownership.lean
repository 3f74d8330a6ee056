import ServiceContainer.Proofs.Verdict

/-!
# Who owns what instances are made from

An instance belongs to the provider that made it. What it was made from was asked of this provider, so it belongs to
the provider as well or to the root provider under it, by the lifetime of its service. From a root provider no request
goes anywhere else; so whatever an instance of a singleton or a transient service was made from, directly or not,
belongs to the same root provider, and what leads to an instance of a scope belongs to this scope.

What the code of a service asks for counts as what its instance was made from. It is assumed to be the same on every
making, whatever the answers are (`Assembly.requests`).

## Main definitions

* `World.MadeFor` — the provider and the registration that an instance was made for
* `World.Receives` — one instance was made from another
* `World.Owned` — who owns what

## Main statements

* `World.Wired.received` — what an instance was made from was registered with its provider
* `World.Wired.reaches_of_root`, `World.Wired.reaches_of_scope` — root providers and scopes keep to themselves
* `Stage.owned_run` — ownership over runs
-/

namespace ServiceContainer

open Relation

namespace World

/-- The instance was made by the provider for a service that is registered with it, in the registered way. -/
def MadeFor (reg : Assembly → List Registration) (w : World) (x : Nat) (k : Keeper) (r : Registration) : Prop :=
  r ∈ registrationsOf (reg k.assembly) k.kind ∧ ∃ construct arguments answers, construct.Makes r ∧
    w.instances[x]? = some (.built (k.assembly.typeName r.implementation) k.handle construct arguments answers)

/-- One instance was made from the other: a parameter was given it, or the code was answered with it. -/
def Receives (w : World) (x y : Nat) : Prop := ∃ i, w.instances[x]? = some i ∧ y ∈ i.sources

/-- Who owns the instances, and what they were made from. -/
structure Owned (reg : Assembly → List Registration) (w : World) : Prop where
  madeFor : ∀ x < w.instances.length, ∃ k r, w.MadeFor reg x k r
  /-- Instances of singletons and transient services were made by a root provider, which is the one that their code was
  handed, and whatever leads away from them are such instances of the same root provider. -/
  root : ∀ x k r, w.MadeFor reg x k r → r.lifetime ≠ .scoped → k.handle = .root k.assembly k.root ∧
    ∀ y, ReflTransGen w.Receives x y → ∃ q, w.MadeFor reg y k q ∧ q.lifetime ≠ .scoped
  /-- Instances of scoped services were made by a scoped provider. What they were made from is what is registered with
  it: scoped instances of its own, and others of the root provider that it is over. -/
  scope : ∀ x k r, w.MadeFor reg x k r → r.lifetime = .scoped →
    (∃ n, k.handle = .scoped k.assembly (.root k.assembly k.root) n) ∧
    ∀ y, w.Receives x y → ∃ type owner q, k.registration? reg type = some (owner, q) ∧ w.MadeFor reg y owner q ∧
      owner = if q.lifetime = .scoped then k else k.toRoot
  /-- Only instances of a scope lead to instances of the scope. -/
  captive : ∀ y k q, w.MadeFor reg y k q → q.lifetime = .scoped → ∀ x, ReflTransGen w.Receives x y →
    ∃ r, w.MadeFor reg x k r ∧ r.lifetime = .scoped

end World

section

variable {reg : Assembly → List Registration} {home : Nat → Option Keeper} {w : World} {s : Site} {k l : Keeper}
variable {r q : Registration} {x y : Nat}

theorem Construct.Makes.implementation {construct : Construct} (h : construct.Makes r) :
    construct.implementation = r.implementation := by
  cases h <;> rfl

namespace World

/-- The lifetime tells the kind of the provider. -/
theorem MadeFor.scoped_iff (h : w.MadeFor reg x k r) : r.lifetime = .scoped ↔ k.scope.isSome = true := by
  rw [mem_registrationsOf h.1]
  obtain ⟨a, n, _ | m⟩ := k <;> simp [Keeper.kind]

/-- One provider made an instance. -/
theorem MadeFor.keeper_unique (h : w.MadeFor reg x k r) (h' : w.MadeFor reg x l q) : k = l := by
  obtain ⟨-, construct, arguments, answers, -, hx⟩ := h
  obtain ⟨-, construct', arguments', answers', -, hx'⟩ := h'
  exact madeBy_unique ⟨_, construct, arguments, answers, hx⟩ ⟨_, construct', arguments', answers', hx'⟩

theorem madeFor_of_built {type : String} {arguments : List Given} {answers : List (Option Nat)}
    (hr : r ∈ registrationsOf (reg s.keeper.assembly) s.keeper.kind) (hmakes : s.accessor.construct.Makes r)
    (htype : type = s.keeper.assembly.typeName s.accessor.construct.implementation)
    (hx : w.instances[x]? = some (.built type s.keeper.handle s.accessor.construct arguments answers)) :
    w.MadeFor reg x s.keeper r := by
  rw [htype, hmakes.implementation] at hx
  exact ⟨hr, _, _, _, hmakes, hx⟩

namespace Wired

variable (hlaid : ∀ n k, home n = some k → k.assembly.LaidOut (reg k.assembly))

include hlaid

/-- Every instance was made for a registered service. -/
theorem exists_madeFor (hw : w.Wired home) (hx : x < w.instances.length) : ∃ k r, w.MadeFor reg x k r := by
  have hinstance := List.getElem?_eq_getElem hx
  obtain ⟨s, hs, hsettled, arguments, answers, hbuilt, -, -⟩ := hw.assembled x _ hinstance
  obtain ⟨i, hdelivers, -, hmem⟩ := hs.exists_deliveredBy (hlaid _ _ hsettled.own)
  rw [hbuilt] at hinstance
  exact ⟨s.keeper, i.registration, madeFor_of_built hmem hdelivers.makes rfl hinstance⟩

/-- An instance of a service was made for its registration. -/
theorem madeFor_of_made (hw : w.Wired home) (hs : s.Genuine) (hsettled : s.keeper.Settled home)
    (hr : s.Registers reg r) (hmade : s.Made w x) : w.MadeFor reg x s.keeper r := by
  obtain ⟨type, arguments, answers, hx⟩ := hmade
  obtain ⟨i, hdelivers, -, rfl⟩ := hr.deliveredBy hs (hlaid _ _ hsettled.own)
  -- The service that the instance was assembled for may be another one, but has the same provider and construct.
  obtain ⟨t, -, -, _, _, heq, -, -⟩ := hw.assembled x _ hx
  obtain ⟨htype, hhandle, hconstruct, -, -⟩ := Instance.built.inj heq
  rw [← Keeper.handle_injective hhandle, ← hconstruct] at htype
  exact madeFor_of_built hr.mem hdelivers.makes htype hx

/-- What an instance was made from is what is registered with its provider for some type. -/
theorem received (hw : w.Wired home) (hx : w.MadeFor reg x k r) (hy : w.Receives x y) :
    ∃ type owner q, k.registration? reg type = some (owner, q) ∧ w.MadeFor reg y owner q ∧
      owner = if q.lifetime = .scoped then k else k.toRoot := by
  obtain ⟨i, hi, hy⟩ := hy
  obtain ⟨-, construct, arguments, answers, -, hx⟩ := hx
  obtain rfl := Option.some.inj (hx.symm.trans hi)
  obtain ⟨s, -, hsettled, hassembles⟩ := hw.assembled x _ hx
  have hkeeper : k = s.keeper := by
    obtain ⟨_, _, heq, -, -⟩ := hassembles
    exact Keeper.handle_injective (Instance.built.inj heq).2.1
  obtain ⟨type, t, hserving, hmade⟩ := hassembles.has hy
  rw [Keeper.serving?_handle] at hserving
  obtain ⟨q, hregistered, hregisters, -⟩ := Keeper.registration?_of_serving? (hlaid _ _ hsettled.own) hserving
  obtain ⟨hgenuine, hsettled'⟩ := hsettled.of_serving? hserving
  rw [hkeeper]
  exact ⟨type, t.keeper, q, hregistered, hw.madeFor_of_made hlaid hgenuine hsettled' hregisters hmade,
    Keeper.registration?_owner hregistered⟩

/-- What an instance of a root provider was made from belongs to the root provider. -/
theorem received_of_root (hw : w.Wired home) (hx : w.MadeFor reg x k r) (hr : r.lifetime ≠ .scoped)
    (hy : w.Receives x y) : ∃ q, w.MadeFor reg y k q ∧ q.lifetime ≠ .scoped := by
  obtain ⟨_, owner, q, -, hmadeFor, howner⟩ := hw.received hlaid hx hy
  -- The root provider under a root provider is itself, whatever the lifetime of the other service.
  have hscope : ¬ k.scope.isSome = true := mt hx.scoped_iff.mpr hr
  have hroot : k.toRoot = k := Keeper.toRoot_eq_self (Option.not_isSome_iff_eq_none.mp hscope)
  rw [hroot, ite_self] at howner
  exact ⟨q, howner ▸ hmadeFor, mt (howner ▸ hmadeFor).scoped_iff.mp hscope⟩

/-- Whatever leads away from an instance of a root provider stays with the root provider. -/
theorem reaches_of_root (hw : w.Wired home) (hx : w.MadeFor reg x k r) (hr : r.lifetime ≠ .scoped)
    (hy : ReflTransGen w.Receives x y) : ∃ q, w.MadeFor reg y k q ∧ q.lifetime ≠ .scoped := by
  induction hy with
  | refl => exact ⟨r, hx, hr⟩
  | tail _ hstep ih =>
    obtain ⟨q, hmadeFor, hq⟩ := ih
    exact hw.received_of_root hlaid hmadeFor hq hstep

/-- Whatever leads to an instance of a scope is of the scope. -/
theorem reaches_of_scope (hw : w.Wired home) (hy : w.MadeFor reg y k q) (hq : q.lifetime = .scoped)
    (hx : ReflTransGen w.Receives x y) : ∃ r, w.MadeFor reg x k r ∧ r.lifetime = .scoped := by
  -- The induction goes back along the way, from the instance of the scope to what leads to it.
  induction hx using ReflTransGen.head_induction_on with
  | refl => exact ⟨q, hy, hq⟩
  | @head x z hstep _ ih =>
    obtain ⟨p, hz, hp⟩ := ih
    obtain ⟨i, hi, -⟩ := id hstep
    obtain ⟨l, r, hx⟩ := hw.exists_madeFor hlaid (List.getElem?_eq_some_iff.mp hi).1
    obtain ⟨_, owner, p', -, hz', howner⟩ := hw.received hlaid hx hstep
    -- The instance has one provider, which is a scoped one, so it is not a root provider that was asked.
    obtain rfl := hz.keeper_unique hz'
    rw [if_pos (hz'.scoped_iff.mpr (hz.scoped_iff.mp hp))] at howner
    subst howner
    exact ⟨r, hx, hx.scoped_iff.mpr (hz.scoped_iff.mp hp)⟩

/-- Everybody owns what the lifetimes say. -/
theorem owned (hw : w.Wired home) : w.Owned reg where
  madeFor _ hx := hw.exists_madeFor hlaid hx
  root x k r hx hr := by
    refine ⟨?_, fun y hy => hw.reaches_of_root hlaid hx hr hy⟩
    rw [Keeper.handle, Option.not_isSome_iff_eq_none.mp (mt hx.scoped_iff.mpr hr)]
  scope x k r hx hr := by
    refine ⟨?_, fun y hy => hw.received hlaid hx hy⟩
    obtain ⟨n, hn⟩ := Option.isSome_iff_exists.mp (hx.scoped_iff.mp hr)
    exact ⟨n, by rw [Keeper.handle, hn]⟩
  captive y k q hy hq x hx := hw.reaches_of_scope hlaid hy hq hx

end Wired

end World

end

/-! ### Runs -/

/-- After any run, root providers own what instances of singletons and transient services were made from, and nothing
of a scope is reached from outside. -/
theorem Stage.owned_run {reg : Assembly → List Registration} {steps : List Step}
    (hsteps : ∀ t ∈ steps, t.Operates fun a => a.LaidOut (reg a) ∧ a.Acyclic) :
    (({} : Stage).run steps).world.Owned reg := by
  obtain ⟨c, _, hlaid, -, hwired⟩ := wired_run hsteps
  exact hwired.owned hlaid

theorem Stage.owned_run_visits : (({} : Stage).run Sample.visits).world.Owned fun _ => Sample.trio :=
  owned_run Sample.visits_operate

end ServiceContainer
