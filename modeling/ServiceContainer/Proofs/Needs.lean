import ServiceContainer.Proofs.Disposal
import ServiceContainer.Proofs.Identity

/-!
# What services need

A service is constructed from instances of the keys of its parameters, which the provider that it belongs to is asked
for in order. It can be had when every key has a registration and the service behind each can be had in turn; otherwise
some type is the first that a walk through the parameters does not find, where each parameter is followed into what it
needs before the next one. Neither depends on what has been made so far.

## Main definitions

* `Construction.keys` — what a registered service is constructed from
* `Keeper.Supplies`, `Keeper.FirstMissing` — all that some keys need is registered, or the first type that is not

## Main statements

* `Keeper.Supplies.not_firstMissing`, `Keeper.FirstMissing.unique` — at most one of the two, and one type
* `Site.Registers.deliveredBy` — a service of a provider is the registered one in all that the provider does for it
* `Keeper.registration?_of_serving?` — what answers a request is registered
-/

namespace ServiceContainer

/-! ### What registrations need -/

/-- The key that an argument is an instance of. -/
def Argument.key? : Argument → Option TypeExpr
  | .shared key | .cloned key => some key
  | .provider => none

/-- The keys of the instances that a service is constructed from, in the order of its parameters. A factory, a unit
literal and a default value need none. -/
def Construction.keys : Construction → List TypeExpr
  | .constructor _ arguments => arguments.filterMap Argument.key?
  | .factory _ | .unitLiteral | .default => []

/-- The provider has a registration for every key, and whoever the registration belongs to has all that it needs. -/
inductive Keeper.Supplies (reg : Assembly → List Registration) : Keeper → List TypeExpr → Prop where
  | nil {k : Keeper} : Supplies reg k []
  | cons {k owner : Keeper} {r : Registration} {key : TypeExpr} {rest : List TypeExpr}
    (registered : k.registration? reg (k.assembly.typeName key) = some (owner, r))
    (needs : Supplies reg owner r.construction.keys) (others : Supplies reg k rest) : Supplies reg k (key :: rest)

/-- The type is the first without a registration, when the keys are followed in order and each one into what it needs
before the next one. -/
inductive Keeper.FirstMissing (reg : Assembly → List Registration) (missing : String) :
    Keeper → List TypeExpr → Prop where
  | unregistered {k : Keeper} {key : TypeExpr} {rest : List TypeExpr} (type : k.assembly.typeName key = missing)
    (none : k.registration? reg missing = none) : FirstMissing reg missing k (key :: rest)
  | within {k owner : Keeper} {r : Registration} {key : TypeExpr} {rest : List TypeExpr}
    (registered : k.registration? reg (k.assembly.typeName key) = some (owner, r))
    (needs : FirstMissing reg missing owner r.construction.keys) : FirstMissing reg missing k (key :: rest)
  | later {k owner : Keeper} {r : Registration} {key : TypeExpr} {rest : List TypeExpr}
    (registered : k.registration? reg (k.assembly.typeName key) = some (owner, r))
    (needs : Keeper.Supplies reg owner r.construction.keys) (others : FirstMissing reg missing k rest) :
    FirstMissing reg missing k (key :: rest)

section

variable {reg : Assembly → List Registration} {k : Keeper} {keys : List TypeExpr} {missing other : String}

/-- Every key is supplied on its own. -/
theorem Keeper.supplies_iff : k.Supplies reg keys ↔ ∀ key ∈ keys, ∃ owner r,
    k.registration? reg (k.assembly.typeName key) = some (owner, r) ∧ owner.Supplies reg r.construction.keys := by
  induction keys with
  | nil => exact iff_of_true .nil (by simp)
  | cons key rest ih =>
    rw [List.forall_mem_cons, ← ih]
    constructor
    · rintro (_ | ⟨hregistered, hneeds, hothers⟩)
      exact ⟨⟨_, _, hregistered, hneeds⟩, hothers⟩
    · rintro ⟨⟨_, _, hregistered, hneeds⟩, hothers⟩
      exact .cons hregistered hneeds hothers

/-- What is supplied lacks nothing. -/
theorem Keeper.Supplies.not_firstMissing (h : k.Supplies reg keys) : ¬ k.FirstMissing reg missing keys := by
  induction h with
  | nil => exact nofun
  | cons registered _ _ ihneeds ihothers =>
    rintro (⟨rfl, hnone⟩ | ⟨hregistered, hneeds⟩ | ⟨-, -, hothers⟩)
    · exact nomatch registered.symm.trans hnone
    · obtain ⟨rfl, rfl⟩ := Prod.mk.inj (Option.some.inj (registered.symm.trans hregistered))
      exact ihneeds hneeds
    · exact ihothers hothers

/-- One type is the first. -/
theorem Keeper.FirstMissing.unique (h : k.FirstMissing reg missing keys) (h' : k.FirstMissing reg other keys) :
    missing = other := by
  induction h with
  | unregistered htype hnone =>
    rcases h' with ⟨htype', -⟩ | ⟨hregistered, -⟩ | ⟨hregistered, -, -⟩
    · exact htype.symm.trans htype'
    · exact nomatch (htype ▸ hregistered).symm.trans hnone
    · exact nomatch (htype ▸ hregistered).symm.trans hnone
  | within registered needs ih =>
    rcases h' with ⟨rfl, hnone⟩ | ⟨hregistered, hneeds⟩ | ⟨hregistered, hneeds, -⟩
    · exact nomatch registered.symm.trans hnone
    · obtain ⟨rfl, rfl⟩ := Prod.mk.inj (Option.some.inj (registered.symm.trans hregistered))
      exact ih hneeds
    · obtain ⟨rfl, rfl⟩ := Prod.mk.inj (Option.some.inj (registered.symm.trans hregistered))
      exact absurd needs hneeds.not_firstMissing
  | later registered needs _ ih =>
    rcases h' with ⟨rfl, hnone⟩ | ⟨hregistered, hneeds⟩ | ⟨-, -, hothers⟩
    · exact nomatch registered.symm.trans hnone
    · obtain ⟨rfl, rfl⟩ := Prod.mk.inj (Option.some.inj (registered.symm.trans hregistered))
      exact absurd hneeds needs.not_firstMissing
    · exact ih hothers

end

/-! ### Services and their registrations -/

/-- The keys of the instances that the service is constructed from. -/
def Site.keys (s : Site) : List TypeExpr := s.accessor.construct.arguments.filterMap Argument.key?

section

variable {reg : Assembly → List Registration} {s : Site} {r : Registration} {k : Keeper} {type : String}

theorem Construct.Makes.keys {construct : Construct} (h : construct.Makes r) :
    construct.arguments.filterMap Argument.key? = r.construction.keys := by
  cases h with
  | factory way => rw [way]; rfl
  | constructor way => rw [way]; rfl
  | unitLiteral way => rw [way]; rfl
  | default way => rw [way]; rfl

theorem Assembly.LaidOut.keys_nodup {a : Assembly} {rs : List Registration} (h : a.LaidOut rs) :
    (rs.map (·.key.display)).Nodup := by
  obtain ⟨o, ho⟩ := h.outcome
  exact checkUniqueKeys_eq_ok.mp (Container.ofRegistrations_eq_ok ho).1

theorem mem_of_mem_registrationsOf {rs : List Registration} {kind : ProviderKind} (hr : r ∈ registrationsOf rs kind) :
    r ∈ rs := by
  cases kind with
  | root => exact (List.mem_filter.mp hr).1
  | _ => exact (List.mem_filter.mp hr).1

/-- A service of a provider is the registered one in all that the provider does for it. -/
theorem Site.Genuine.exists_deliveredBy (hs : s.Genuine) (hlaid : s.keeper.assembly.LaidOut (reg s.keeper.assembly)) :
    ∃ i : Identified, i.DeliveredBy s.accessor ∧ i.Genuine ∧
      i.registration ∈ registrationsOf (reg s.keeper.assembly) s.keeper.kind := by
  obtain ⟨xs, hxs, hserves⟩ := hlaid.serves s.keeper.kind
  obtain ⟨i, hi, hdelivers⟩ := hserves.exists_deliveredBy hs
  exact ⟨i, hdelivers, hserves.genuine i hi, hxs ▸ List.mem_map_of_mem hi⟩

theorem Site.Registers.deliveredBy (h : s.Registers reg r) (hs : s.Genuine)
    (hlaid : s.keeper.assembly.LaidOut (reg s.keeper.assembly)) :
    ∃ i : Identified, i.DeliveredBy s.accessor ∧ i.Genuine ∧ i.registration = r := by
  obtain ⟨i, hdelivers, hgenuine, hmem⟩ := hs.exists_deliveredBy hlaid
  -- No two registrations have the key of the service.
  refine ⟨i, hdelivers, hgenuine, List.inj_on_of_nodup_map hlaid.keys_nodup (mem_of_mem_registrationsOf hmem)
    (mem_of_mem_registrationsOf h.mem) ?_⟩
  rw [← hdelivers.key, h.key]

theorem Identified.DeliveredBy.makes {i : Identified} {x : Accessor} (h : i.DeliveredBy x) :
    x.construct.Makes i.registration := by
  by_cases ht : i.registration.lifetime = .transient
  · obtain ⟨construct, hmakes, hbody⟩ := h.fresh ht
    rwa [Accessor.construct, hbody]
  · obtain ⟨construct, hmakes, hbody⟩ := h.kept ht
    rwa [Accessor.construct, hbody]

/-- A service is constructed from the keys that its registration names. -/
theorem Site.Registers.keys_eq (h : s.Registers reg r) (hs : s.Genuine)
    (hlaid : s.keeper.assembly.LaidOut (reg s.keeper.assembly)) : r.construction.keys = s.keys := by
  obtain ⟨i, hdelivers, -, rfl⟩ := h.deliveredBy hs hlaid
  rw [Site.keys, hdelivers.makes.keys]

/-- The cell of a service is the one that its registration names. -/
theorem Site.Registers.place?_eq (h : s.Registers reg r) (hs : s.Genuine)
    (hlaid : s.keeper.assembly.LaidOut (reg s.keeper.assembly)) :
    s.place? = r.cellName?.map (s.keeper.store, ·) := by
  obtain ⟨i, hdelivers, hgenuine, rfl⟩ := h.deliveredBy hs hlaid
  rw [Identified.Genuine] at hgenuine
  rw [Site.place?, hdelivers.cell?_eq, Identified.cell?, Registration.cellName?, hgenuine]
  split <;> rfl

/-- What answers a request is registered, and belongs to the provider that delivers. -/
theorem Keeper.registration?_of_serving? (hlaid : k.assembly.LaidOut (reg k.assembly)) (hs : k.serving? type = some s) :
    ∃ r, k.registration? reg type = some (s.keeper, r) ∧ s.Registers reg r ∧ r.construction.keys = s.keys := by
  obtain ⟨hassembly, -, -⟩ := Keeper.serving?_eq_some hs
  have hlaid' : s.keeper.assembly.LaidOut (reg s.keeper.assembly) := hassembly ▸ hlaid
  have hgenuine : s.Genuine := (hlaid'.mem_of_accessorFor? _ (Keeper.accessorFor?_of_serving? hs)).1
  have hrel := Keeper.serving?_rel hlaid type
  rw [hs] at hrel
  generalize k.registration? reg type = p at hrel ⊢
  cases hrel with
  | @some p _ hp =>
    obtain ⟨hkeeper, hregisters⟩ := hp
    exact ⟨p.2, congrArg some (Prod.ext hkeeper rfl), hregisters, hregisters.keys_eq hgenuine hlaid'⟩

/-- The registration behind a service that has all that it needs. -/
theorem Keeper.exists_supplies (hlaid : k.assembly.LaidOut (reg k.assembly)) (hs : k.serving? type = some s)
    (hneeds : s.keeper.Supplies reg s.keys) :
    ∃ owner r, k.registration? reg type = some (owner, r) ∧ owner.Supplies reg r.construction.keys := by
  obtain ⟨r, hregistered, -, hkeys⟩ := Keeper.registration?_of_serving? hlaid hs
  exact ⟨s.keeper, r, hregistered, hkeys ▸ hneeds⟩

theorem Keeper.registration?_eq_none (hlaid : k.assembly.LaidOut (reg k.assembly)) :
    k.registration? reg type = none ↔ k.serving? type = none := by
  have hrel := Keeper.serving?_rel hlaid type
  generalize k.registration? reg type = p at hrel ⊢
  generalize k.serving? type = s at hrel ⊢
  cases hrel <;> simp

end

end ServiceContainer
