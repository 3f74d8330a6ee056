import Mathlib.Logic.Relation
import ServiceContainer.Proofs.Attempt
import ServiceContainer.Proofs.Layout

/-!
# Which provider delivers

A request that goes to a handle ends at one provider, which has an accessor for the type, or at none. Which one it is
depends on the handle and the type alone and not on the state, so a request is the delivery at that place. The services
that a delivery may ask for in turn are the needs of the place; a container is acyclic when none needs itself.

## Main definitions

* `Keeper`, `Site` — a provider with its cells, and one of its services
* `Handle.Plain`, `Handle.keepers`, `Handle.serving?` — the handles on containers, and where their requests end
* `Assembly.LaidOut`, `Assembly.Acyclic` — containers of registrations whose services do not need themselves
* `Site.deliver` — a delivery at a place

## Main statements

* `ask_eq` — a request is a delivery at the place where it ends
* `Site.not_transGen_needs_self` — no place needs itself
-/

namespace ServiceContainer

open Relation

/-! ### The providers of an assembly -/

namespace Assembly

/-- The provider of a kind. -/
def provider (a : Assembly) : ProviderKind → Provider
  | .root => a.container.rootProvider
  | .scoped => a.container.scopedProvider

/-- The accessor that delivers a type to a provider of a kind, with the kind of the provider that has it. -/
def answering? (a : Assembly) (kind : ProviderKind) (type : String) : Option (ProviderKind × Accessor) :=
  match (a.provider kind).accessorFor? a type with
  | some x => some (kind, x)
  | none =>
    match kind with
    | .root => none
    | .scoped => (a.container.rootProvider.accessorFor? a type).map (.root, ·)

/-- What the code of a construct asks the provider for that it is handed. -/
def asked (a : Assembly) (k : Construct) : List String := if k.handsProvider then a.requests k else []

/-- The type that an argument is an instance of. -/
def argumentType? (a : Assembly) : Argument → Option String
  | .shared key | .cloned key => some (a.typeName key)
  | .provider => none

/-- The types that are asked for when an instance is made. -/
def wants (a : Assembly) (k : Construct) : List String :=
  k.arguments.filterMap a.argumentType? ++ a.asked k

end Assembly

/-- How the instance of a service is made. -/
def Accessor.construct (x : Accessor) : Construct :=
  match x.body with
  | .memoized _ _ k | .fresh _ k => k

namespace Assembly

/-- Making an instance of one service asks for the other. -/
def Needs (a : Assembly) (s t : ProviderKind × Accessor) : Prop :=
  ∃ type ∈ a.wants s.2.construct, a.answering? s.1 type = some t

/-- No service needs itself. -/
def Acyclic (a : Assembly) : Prop := ∀ s, ¬ TransGen a.Needs s s

/-- The container is the layout of the registrations, whose keys are lexical as all keys that were read are. -/
structure LaidOut (a : Assembly) (rs : List Registration) : Prop where
  lexical : ∀ r ∈ rs, r.key.IsLexical
  outcome : ∃ o, (Container.ofRegistrations o rs).outcome = .ok a.container

end Assembly

/-! ### Keepers and places -/

/-- A provider of a container with its cells: the root provider, or a scoped provider over it. -/
structure Keeper where
  assembly : Assembly
  /-- The store of the root provider. -/
  root : Nat
  /-- The store of the scoped provider, if it is one. -/
  scope : Option Nat

namespace Keeper

/-- The root provider. -/
def toRoot (k : Keeper) : Keeper := { k with scope := none }

/-- The scoped provider with the cells of a store over the root provider. -/
def inScope (k : Keeper) (n : Nat) : Keeper := { k with scope := some n }

/-- The kind of the provider. -/
def kind (k : Keeper) : ProviderKind :=
  match k.scope with
  | none => .root
  | some _ => .scoped

/-- The provider as a handle. -/
def handle (k : Keeper) : Handle :=
  match k.scope with
  | none => .root k.assembly k.root
  | some n => .scoped k.assembly (.root k.assembly k.root) n

/-- The store of the provider. -/
def store (k : Keeper) : Nat := k.scope.getD k.root

/-- The members of the provider. -/
def provider (k : Keeper) : Provider := k.assembly.provider k.kind

/-- The provider of a kind that a request to this one can end at. -/
def ofKind (k : Keeper) : ProviderKind → Keeper
  | .root => k.toRoot
  | .scoped => k

theorem ofKind_assembly (k : Keeper) (kind : ProviderKind) : (k.ofKind kind).assembly = k.assembly := by
  cases kind <;> rfl

theorem toRoot_eq_self {k : Keeper} (h : k.scope = none) : k.toRoot = k := by
  obtain ⟨a, r, n⟩ := k
  obtain rfl : n = none := h
  rfl

theorem handle_injective {k l : Keeper} (h : k.handle = l.handle) : k = l := by
  obtain ⟨a, s, _ | n⟩ := k <;> obtain ⟨b, t, _ | m⟩ := l
  · obtain ⟨rfl, rfl⟩ := Handle.root.inj h
    rfl
  · exact nomatch h
  · exact nomatch h
  · obtain ⟨rfl, hroot, rfl⟩ := Handle.scoped.inj h
    obtain ⟨-, rfl⟩ := Handle.root.inj hroot
    rfl

end Keeper

/-- A service of a provider. -/
structure Site where
  keeper : Keeper
  accessor : Accessor

/-- Where the provider answers a request for a type: itself, or in the root provider under it. -/
def Keeper.serving? (k : Keeper) (type : String) : Option Site :=
  (k.assembly.answering? k.kind type).map fun s => ⟨k.ofKind s.1, s.2⟩

namespace Site

/-- The cell that keeps the instance of the service. -/
def place? (s : Site) : Option (Nat × String) := s.accessor.cell?.map fun c => (s.keeper.store, c.name)

/-- Making an instance of one service asks for the other. -/
def Needs (s t : Site) : Prop :=
  ∃ type ∈ s.keeper.assembly.wants s.accessor.construct, s.keeper.serving? type = some t

/-- Delivers the service; the makings within nest no deeper than a bound. -/
def deliver (depth : Nat) (s : Site) : Attempt Nat :=
  s.accessor.deliver (s.keeper.assembly.make (ask depth) s.keeper.handle) s.keeper.store

end Site

/-! ### Handles on containers -/

/-- The handle leads to containers only, and each scoped provider is one over the root provider of its container. -/
inductive Handle.Plain : Handle → Prop where
  | keeper (k : Keeper) : Plain k.handle
  | scope (id : Nat) (owner : Bool) {inner : Handle} (plain : Plain inner) : Plain (.scope id owner inner)
  | composed {parts : List Handle} (plain : ∀ h ∈ parts, Plain h) : Plain (.composed parts)

mutual

/-- The providers that a handle asks, in order. -/
def Handle.keepers : Handle → List Keeper
  | .root a s => [⟨a, s, none⟩]
  | .scoped a (.root _ s) n => [⟨a, s, some n⟩]
  | .scoped _ _ _ => []
  | .scope _ _ inner => inner.keepers
  | .composed parts => keepersOf parts
  | .foreign _ => []

/-- The providers that some handles ask, in order. -/
def keepersOf : List Handle → List Keeper
  | [] => []
  | h :: rest => h.keepers ++ keepersOf rest

end

@[simp] theorem Keeper.keepers_handle (k : Keeper) : k.handle.keepers = [k] := by
  obtain ⟨a, s, _ | n⟩ := k <;> simp [Keeper.handle, Handle.keepers]

theorem keepersOf_eq (hs : List Handle) : keepersOf hs = hs.flatMap Handle.keepers := by
  induction hs with
  | nil => rw [keepersOf, List.flatMap_nil]
  | cons h rest ih => rw [keepersOf, ih, List.flatMap_cons]

/-- Where a handle answers a request for a type. -/
def Handle.serving? (h : Handle) (type : String) : Option Site := h.keepers.findSome? (·.serving? type)

@[simp] theorem Keeper.serving?_handle (k : Keeper) (type : String) : k.handle.serving? type = k.serving? type := by
  rw [Handle.serving?, Keeper.keepers_handle]
  cases h : k.serving? type <;> simp [h]

/-! ### Requests -/

/-- The delivery of what was found, if anything was. -/
def deliverAt (depth : Nat) (type : String) : Option Site → Attempt (Option Delivery)
  | some s => do return some ⟨type, ← s.deliver depth⟩
  | none => return none

theorem askWith_keeper (depth : Nat) (k : Keeper) (type : String) :
    k.handle.askWith (fun h a => a.make (ask depth) h) type = deliverAt depth type (k.serving? type) := by
  obtain ⟨a, s, _ | n⟩ := k
  · rw [Keeper.handle, Handle.askWith]
    simp only [Keeper.serving?, Keeper.kind, Assembly.answering?, Assembly.provider]
    cases a.container.rootProvider.accessorFor? a type <;> rfl
  · rw [Keeper.handle, Handle.askWith, Handle.askWith]
    simp only [Keeper.serving?, Keeper.kind, Assembly.answering?, Assembly.provider]
    cases a.container.scopedProvider.accessorFor? a type
    · cases a.container.rootProvider.accessorFor? a type <;> rfl
    · rfl

/-- A request is the delivery at the place where it ends. -/
theorem ask_eq {h : Handle} (hplain : h.Plain) (depth : Nat) (type : String) :
    ask (depth + 1) h type = deliverAt depth type (h.serving? type) := by
  change h.askWith (fun h a => a.make (ask depth) h) type = _
  induction hplain with
  | keeper k => rw [askWith_keeper, Keeper.serving?_handle]
  | scope id owner _ ih => rw [Handle.askWith, ih, Handle.serving?, Handle.serving?, Handle.keepers]
  | @composed parts hparts ih =>
    rw [Handle.askWith, Handle.serving?, Handle.keepers]
    induction parts with
    | nil =>
      rw [askParts, keepersOf]
      rfl
    | cons p rest ihrest =>
      rw [askParts, keepersOf, List.findSome?_append, ih p List.mem_cons_self, Handle.serving?,
        ihrest (fun q hq => hparts q (List.mem_cons_of_mem p hq)) fun q hq => ih q (List.mem_cons_of_mem p hq)]
      cases p.keepers.findSome? (·.serving? type) with
      | none => simp [deliverAt]
      | some s => simp [deliverAt]

/-! ### The members of a container that is laid out -/

/-- The registrations that belong to the provider of a kind. -/
def registrationsOf (rs : List Registration) : ProviderKind → List Registration
  | .root => rootRegistrations rs
  | .scoped => scopedRegistrations rs

section

variable {a : Assembly} {rs : List Registration} {p : Provider} {xs : List Identified} {type : String} {x : Accessor}

theorem Assembly.LaidOut.serves (h : a.LaidOut rs) (kind : ProviderKind) :
    ∃ xs, xs.map (·.registration) = registrationsOf rs kind ∧ (a.provider kind).Serves xs := by
  obtain ⟨o, ho⟩ := h.outcome
  obtain ⟨⟨-, hroot⟩, -, hscoped⟩ := Container.serves_of_layOut h.lexical (Container.ofRegistrations_eq_ok ho).2
  cases kind with
  | root => exact hroot
  | _ => exact hscoped

/-- The lookups find the first accessor for a type. -/
theorem Provider.Serves.accessorFor?_eq (h : p.Serves xs) (a : Assembly) (type : String) :
    p.accessorFor? a type = p.accessors.find? fun x => a.typeName x.key == type := by
  rw [Provider.accessorFor?, h.lookups, List.find?_map]
  cases hx : p.accessors.find? fun x => a.typeName x.key == type with
  | none =>
    have hnone : p.accessors.find? ((fun l : Lookup => a.typeName l.key == type) ∘ fun x => ⟨x.key, x.name⟩) = none :=
      hx
    rw [hnone]
    rfl
  | some x =>
    have hsome : p.accessors.find? ((fun l : Lookup => a.typeName l.key == type) ∘ fun x => ⟨x.key, x.name⟩) = some x :=
      hx
    rw [hsome]
    -- The lookup leads on by the name of the accessor, and names are distinct.
    change p.accessors.find? (fun y => y.name == x.name) = some x
    cases hy : p.accessors.find? (fun y => y.name == x.name) with
    | none => exact absurd (beq_self_eq_true x.name) (List.find?_eq_none.mp hy x (List.mem_of_find?_eq_some hx))
    | some y =>
      have hname := List.find?_some hy
      rw [h.accessor_eq_of_name (List.mem_of_find?_eq_some hy) (List.mem_of_find?_eq_some hx) (beq_iff_eq.mp hname)]

/-- The accessor for a type delivers the first service with that type. -/
theorem Provider.Serves.accessorFor?_rel (h : p.Serves xs) (a : Assembly) (type : String) :
    Option.Rel Identified.DeliveredBy (xs.find? fun i => a.typeName i.registration.key == type)
      (p.accessorFor? a type) := by
  rw [h.accessorFor?_eq]
  have hd := h.delivers
  clear h
  generalize p.accessors = as at hd
  induction hd with
  | nil => exact .none
  | @cons i y _ _ hi _ ih =>
    rw [List.find?_cons, List.find?_cons, hi.key]
    split
    · exact .some hi
    · exact ih

theorem Assembly.LaidOut.mem_of_accessorFor? (h : a.LaidOut rs) (kind : ProviderKind)
    (hx : (a.provider kind).accessorFor? a type = some x) :
    x ∈ (a.provider kind).accessors ∧ a.typeName x.key = type := by
  obtain ⟨xs, -, hserves⟩ := h.serves kind
  rw [hserves.accessorFor?_eq] at hx
  have htype := List.find?_some hx
  exact ⟨List.mem_of_find?_eq_some hx, beq_iff_eq.mp htype⟩

end

/-! ### Places -/

theorem Assembly.accessorFor?_of_answering? {a : Assembly} {kind : ProviderKind} {type : String}
    {t : ProviderKind × Accessor} (h : a.answering? kind type = some t) :
    (a.provider t.1).accessorFor? a type = some t.2 := by
  unfold answering? at h
  split at h
  next x hx =>
    obtain rfl := Option.some.inj h
    exact hx
  next =>
    split at h
    · exact nomatch h
    · obtain ⟨x, hx, rfl⟩ := Option.map_eq_some_iff.mp h
      exact hx

/-- A container is acyclic if what a service needs is lower in some ranking. -/
theorem Assembly.LaidOut.acyclic_of_rank {a : Assembly} {rs : List Registration} (h : a.LaidOut rs)
    (rank : ProviderKind × Accessor → Nat)
    (hrank : ∀ kind, ∀ x ∈ (a.provider kind).accessors, ∀ t, a.Needs (kind, x) t → rank t < rank (kind, x)) :
    a.Acyclic := by
  have hgenuine {s t} (ht : a.Needs s t) : t.2 ∈ (a.provider t.1).accessors := by
    obtain ⟨type, -, hanswering⟩ := ht
    exact (h.mem_of_accessorFor? t.1 (Assembly.accessorFor?_of_answering? hanswering)).1
  have hlower {s t} (hs : s.2 ∈ (a.provider s.1).accessors) (hst : TransGen a.Needs s t) :
      t.2 ∈ (a.provider t.1).accessors ∧ rank t < rank s := by
    induction hst with
    | single hneeds => exact ⟨hgenuine hneeds, hrank _ _ hs _ hneeds⟩
    | tail _ hneeds ih => exact ⟨hgenuine hneeds, (hrank _ _ ih.1 _ hneeds).trans ih.2⟩
  intro s hself
  -- A service that needs itself is needed by something, so it is one of the container and has a rank.
  obtain ⟨u, -, hneeds⟩ := TransGen.tail'_iff.mp hself
  exact Nat.lt_irrefl _ (hlower (hgenuine hneeds) hself).2

namespace Keeper

variable {k : Keeper} {type : String} {s : Site}

theorem ofKind_kind_of_answering? {t : ProviderKind × Accessor}
    (h : k.assembly.answering? k.kind type = some t) : (k.ofKind t.1).kind = t.1 := by
  obtain ⟨kind, x⟩ := t
  cases kind with
  | root => rfl
  | _ =>
    -- The root provider never answers with a scoped service.
    obtain ⟨a, r, _ | n⟩ := k
    · rw [Keeper.kind, Assembly.answering?] at h
      split at h <;> simp at h
    · rfl

theorem accessorFor?_of_serving? (h : k.serving? type = some s) :
    s.keeper.provider.accessorFor? s.keeper.assembly type = some s.accessor := by
  obtain ⟨t, ht, rfl⟩ := Option.map_eq_some_iff.mp h
  rw [Keeper.provider, ofKind_kind_of_answering? ht, ofKind_assembly]
  exact Assembly.accessorFor?_of_answering? ht

theorem serving?_eq_some (h : k.serving? type = some s) :
    s.keeper.assembly = k.assembly ∧ (s.keeper = k ∨ s.keeper = k.toRoot) ∧
      k.assembly.answering? k.kind type = some (s.keeper.kind, s.accessor) := by
  obtain ⟨t, ht, rfl⟩ := Option.map_eq_some_iff.mp h
  have hkind := ofKind_kind_of_answering? ht
  refine ⟨ofKind_assembly k t.1, ?_, ?_⟩
  · cases t.1 with
    | root => exact .inr rfl
    | _ => exact .inl rfl
  · rw [ht, hkind]

end Keeper

/-- The accessor at the place where a request ends is the one that its provider has for the type. -/
theorem Handle.accessorFor?_of_serving? {h : Handle} {type : String} {s : Site} (hs : h.serving? type = some s) :
    s.keeper.provider.accessorFor? s.keeper.assembly type = some s.accessor := by
  obtain ⟨k, -, hk⟩ := List.exists_of_findSome?_eq_some hs
  exact Keeper.accessorFor?_of_serving? hk

namespace Site

variable {s t : Site}

theorem Needs.assembly_needs (h : s.Needs t) : t.keeper.assembly = s.keeper.assembly ∧
    s.keeper.assembly.Needs (s.keeper.kind, s.accessor) (t.keeper.kind, t.accessor) := by
  obtain ⟨type, hwants, hserving⟩ := h
  obtain ⟨hassembly, -, hanswering⟩ := Keeper.serving?_eq_some hserving
  exact ⟨hassembly, type, hwants, hanswering⟩

/-- No place of an acyclic container needs itself. -/
theorem not_transGen_needs_self (h : s.keeper.assembly.Acyclic) : ¬ TransGen Needs s s := by
  have hlift {t : Site} (ht : TransGen Needs s t) : t.keeper.assembly = s.keeper.assembly ∧
      TransGen s.keeper.assembly.Needs (s.keeper.kind, s.accessor) (t.keeper.kind, t.accessor) := by
    induction ht with
    | single hneeds => exact ⟨hneeds.assembly_needs.1, .single hneeds.assembly_needs.2⟩
    | tail _ hneeds ih =>
      obtain ⟨hassembly, hstep⟩ := hneeds.assembly_needs
      rw [ih.1] at hassembly hstep
      exact ⟨hassembly, ih.2.tail hstep⟩
  exact fun hself => h _ (hlift hself).2

end Site

end ServiceContainer
