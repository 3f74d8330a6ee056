import ServiceContainer.Proofs.Members
import ServiceContainer.Proofs.Names

/-!
# The members of a laid out container

A provider *serves* a list of services when every list of members is in step with it and no two members share a name.
Where keys are written as in a text, the members of a registration are named after its identifier; so both providers of
a container serve their part of the registrations. With the check of the keys it follows that every registration is
found by one lookup, and that every name a member refers to is the name of one member.

## Main definitions

* `Construct.Makes` — a construct does what was registered
* `Identified.DeliveredBy` — an accessor delivers a service
* `Provider.Serves`, `Provider.Resolved` — the members are in step with the services, and names lead to one member
* `Container.WellFormed` — the container answers for its registrations

## Main statements

* `Provider.MadeFrom.serves` — the members of registrations are in step with their services
* `Container.wellFormed` — every container that is laid out is well-formed
-/

namespace ServiceContainer

/-! ### Members in step with services -/

/-- The construct makes the implementation of a registration in the registered way. -/
inductive Construct.Makes (r : Registration) : Construct → Prop where
  | factory {method name : String} (way : r.construction = .factory method) (named : identifier method = .ok name) :
    Makes r (.factory r.implementation name)
  | constructor {function name : String} {arguments : List Argument}
    (way : r.construction = .constructor function arguments) (named : identifier function = .ok name) :
    Makes r (.constructor r.implementation name arguments)
  | unitLiteral (way : r.construction = .unitLiteral) : Makes r (.unitLiteral r.implementation)
  | default (way : r.construction = .default) : Makes r (.default r.implementation)

namespace Identified

/-- The service is registered with the identifier of its key. -/
def Genuine (x : Identified) : Prop := serviceIdentifier x.registration.key = .ok x.identifier

/-- The cell of a service, which a transient one has not. -/
def cell? (x : Identified) : Option Cell :=
  if x.registration.lifetime = .transient then none
  else some ⟨cellName x.identifier, x.registration.implementation⟩

/-- The cell of a service that has to be disposed of. -/
def disposal? (x : Identified) : Option String :=
  if x.registration.disposable then x.cell?.map (·.name) else none

/-- The accessor delivers the service. -/
structure DeliveredBy (x : Identified) (a : Accessor) : Prop where
  name : a.name = accessorName x.identifier
  key : a.key = x.registration.key
  /-- An instance of a service that is not transient is kept. -/
  kept : x.registration.lifetime ≠ .transient → ∃ construct, construct.Makes x.registration ∧
    a.body = .memoized (cellName x.identifier) x.registration.implementation construct
  /-- An instance of a transient service is new. -/
  fresh : x.registration.lifetime = .transient → ∃ construct, construct.Makes x.registration ∧
    a.body = .fresh x.registration.implementation construct

end Identified

/-- The members of the provider are those of the services, in their order. -/
structure Provider.Serves (p : Provider) (xs : List Identified) : Prop where
  delivers : List.Forall₂ Identified.DeliveredBy xs p.accessors
  lookups : p.lookups = p.accessors.map fun a => ⟨a.key, a.name⟩
  cells : p.cells = p.accessors.filterMap Accessor.cell?
  disposals : p.disposals = xs.filterMap Identified.disposal?
  genuine : ∀ x ∈ xs, x.Genuine
  distinct : (xs.map (·.identifier)).Nodup

/-- Every name that a member refers to is the name of one member: accessors and cells have names of their own. -/
structure Provider.Resolved (p : Provider) : Prop where
  accessorNames : (p.accessors.map (·.name)).Nodup
  cellNames : (p.cells.map (·.name)).Nodup
  lookup : ∀ l ∈ p.lookups, ∃ a ∈ p.accessors, a.name = l.accessor ∧ a.key = l.key
  body : ∀ a ∈ p.accessors, ∀ c, a.cell? = some c → c ∈ p.cells
  disposal : ∀ d ∈ p.disposals, ∃ c ∈ p.cells, c.name = d

/-! ### One service -/

namespace Identified

variable {x : Identified} {a : Accessor}

theorem name_of_cell? {c : Cell} (hc : x.cell? = some c) : c.name = cellName x.identifier := by
  rw [cell?, Option.ite_none_left_eq_some, Option.some.injEq] at hc
  rw [← hc.2]

theorem eq_of_disposal? {name : String} (hname : x.disposal? = some name) : name = cellName x.identifier := by
  rw [disposal?, Option.ite_none_right_eq_some] at hname
  obtain ⟨c, hc, rfl⟩ := Option.map_eq_some_iff.mp hname.2
  exact name_of_cell? hc

theorem DeliveredBy.cell?_eq (h : x.DeliveredBy a) : a.cell? = x.cell? := by
  rw [cell?]
  split
  next ht =>
    obtain ⟨construct, -, hbody⟩ := h.fresh ht
    rw [Accessor.cell?, hbody]
  next ht =>
    obtain ⟨construct, -, hbody⟩ := h.kept ht
    rw [Accessor.cell?, hbody]

/-- The body is one with a cell exactly for services that are not transient. -/
theorem DeliveredBy.isMemoized_iff (h : x.DeliveredBy a) :
    (∃ cell type construct, a.body = .memoized cell type construct) ↔ x.registration.lifetime ≠ .transient := by
  constructor
  · rintro ⟨cell, type, construct, hbody⟩ ht
    obtain ⟨_, -, hfresh⟩ := h.fresh ht
    rw [hbody] at hfresh
    exact nomatch hfresh
  · intro ht
    obtain ⟨construct, -, hbody⟩ := h.kept ht
    exact ⟨_, _, construct, hbody⟩

end Identified

theorem Construct.makes_of_ofRegistration {r : Registration} {k : Construct}
    (h : Construct.ofRegistration r = .ok k) : k.Makes r := by
  rw [Construct.ofRegistration] at h
  split at h
  next method hway =>
    obtain ⟨name, hname, hk⟩ := bind_eq_ok.mp h
    rw [← pure_eq_ok.mp hk]
    exact .factory hway hname
  next function arguments hway =>
    obtain ⟨name, hname, hk⟩ := bind_eq_ok.mp h
    rw [← pure_eq_ok.mp hk]
    exact .constructor hway hname
  next hway =>
    rw [← pure_eq_ok.mp h]
    exact .unitLiteral hway
  next hway =>
    rw [← pure_eq_ok.mp h]
    exact .default hway

/-- The accessor for a registration delivers its service. -/
theorem Registration.deliveredBy {r : Registration} {id : String} {a : Accessor} (hkey : r.key.IsLexical)
    (hid : serviceIdentifier r.key = .ok id) (h : r.accessor = .ok a) : Identified.DeliveredBy ⟨id, r⟩ a := by
  rw [Registration.accessor_eq hid] at h
  have hsolid := serviceIdentifier_solid hkey hid
  obtain ⟨name, hname, h⟩ := bind_eq_ok.mp h
  obtain ⟨construct, hconstruct, h⟩ := bind_eq_ok.mp h
  have hmakes := Construct.makes_of_ofRegistration hconstruct
  obtain rfl := identifier_accessorName hsolid hname
  -- The lifetime alone decides between the two shapes of a body.
  by_cases ht : r.lifetime = .transient
  · have hm : ¬ r.lifetime.isMemoized = true := by simp [ht, Lifetime.isMemoized]
    rw [if_neg hm] at h
    rw [← pure_eq_ok.mp h]
    exact ⟨rfl, rfl, fun hk => absurd ht hk, fun _ => ⟨construct, hmakes, rfl⟩⟩
  · rw [if_pos (Lifetime.isMemoized_iff.mpr ht)] at h
    obtain ⟨cell, hcell, h⟩ := bind_eq_ok.mp h
    obtain rfl := identifier_cellName hsolid hcell
    rw [← pure_eq_ok.mp h]
    exact ⟨rfl, rfl, fun _ => ⟨construct, hmakes, rfl⟩, fun hk => absurd hk ht⟩

/-! ### All services -/

/-- The members of registrations are those of their services. -/
theorem exists_identified {rs : List Registration} (hrs : ∀ r ∈ rs, r.key.IsLexical)
    (haccessible : ∀ r ∈ rs, ∃ a, r.accessor = .ok a) : ∃ xs : List Identified,
      xs.map (·.registration) = rs ∧ (∀ x ∈ xs, x.Genuine) ∧
      List.Forall₂ Identified.DeliveredBy xs (rs.filterMap Registration.accessor?) ∧
      rs.map Registration.identifier? = (xs.map (·.identifier)).map some ∧
      rs.filterMap Registration.disposal? = xs.filterMap Identified.disposal? := by
  -- All lists grow by one service at a time, side by side.
  induction rs with
  | nil => exact ⟨[], rfl, by simp, .nil, rfl, rfl⟩
  | cons r rest ih =>
    obtain ⟨hkey, hrest⟩ := List.forall_mem_cons.mp hrs
    obtain ⟨⟨a, ha⟩, haccessors⟩ := List.forall_mem_cons.mp haccessible
    obtain ⟨xs, rfl, hgenuine, hdelivers, hidentifiers, hdisposals⟩ := ih hrest haccessors
    obtain ⟨id, hid⟩ := Registration.exists_identifier ha
    have hx := Registration.deliveredBy hkey hid ha
    have hdisposal : r.disposal? = Identified.disposal? ⟨id, r⟩ := by
      rw [Registration.disposal?, Registration.accessor?_eq_some ha, Option.bind_some, hx.cell?_eq]
      rfl
    refine ⟨⟨id, r⟩ :: xs, rfl, List.forall_mem_cons.mpr ⟨hid, hgenuine⟩, ?_, ?_, ?_⟩
    · rw [List.filterMap_cons_some (Registration.accessor?_eq_some ha)]
      exact .cons hx hdelivers
    · rw [List.map_cons, hidentifiers, Registration.identifier?_eq_some hid]
      rfl
    · rw [List.filterMap_cons, List.filterMap_cons, hdisposals, hdisposal]

/-- A provider with the members of registrations serves them. -/
theorem Provider.MadeFrom.serves {kind : ProviderKind} {text : String} {rs : List Registration} {p : Provider}
    (h : p.MadeFrom kind text rs) (hrs : ∀ r ∈ rs, r.key.IsLexical) :
    ∃ xs, xs.map (·.registration) = rs ∧ p.Serves xs := by
  obtain ⟨xs, hxs, hgenuine, hdelivers, hidentifiers, hdisposals⟩ := exists_identified hrs h.accessible
  have hdistinct := h.distinct
  rw [hidentifiers] at hdistinct
  exact ⟨xs, hxs, h.accessors ▸ hdelivers, h.lookups, h.cells, h.disposals.trans hdisposals, hgenuine,
    hdistinct.of_map⟩

/-! ### Names lead to one member -/

namespace Provider.Serves

variable {p : Provider} {xs : List Identified}

/-- What an accessor shares with its service, the lists share. -/
theorem map_accessors (h : p.Serves xs) {α : Type} {f : Accessor → α} {g : Identified → α}
    (hfg : ∀ x a, x.DeliveredBy a → g x = f a) : p.accessors.map f = xs.map g := by
  have hall : List.Forall₂ (· = ·) (xs.map g) (p.accessors.map f) :=
    List.forall₂_map_left_iff.mpr (List.forall₂_map_right_iff.mpr (h.delivers.imp hfg))
  rw [List.forall₂_eq_eq_eq] at hall
  exact hall.symm

theorem accessors_names (h : p.Serves xs) : p.accessors.map (·.name) = xs.map fun x => accessorName x.identifier :=
  h.map_accessors fun _ _ hx => hx.name.symm

/-- The keys of the lookups are those of the services. -/
theorem lookups_keys (h : p.Serves xs) : p.lookups.map (·.key) = xs.map (·.registration.key) := by
  rw [h.lookups, List.map_map]
  exact h.map_accessors fun _ _ hx => hx.key.symm

/-- The cells are those of the services that are not transient. -/
theorem cells_eq (h : p.Serves xs) : p.cells = xs.filterMap Identified.cell? := by
  have hcells : p.accessors.map Accessor.cell? = xs.map Identified.cell? :=
    h.map_accessors fun _ _ hx => hx.cell?_eq.symm
  simpa [List.filterMap_map, h.cells] using congrArg (List.filterMap id) hcells

/-- No member is missing, and none stands for another. -/
theorem resolved (h : p.Serves xs) : p.Resolved where
  accessorNames := by
    rw [h.accessors_names]
    have hnames := h.distinct.map accessorName_injective
    rwa [List.map_map] at hnames
  cellNames := by
    rw [h.cells_eq, List.Nodup, List.pairwise_map, List.pairwise_filterMap]
    refine (List.pairwise_map.mp h.distinct).imp fun hne c hc d hd heq => hne (cellName_injective ?_)
    rw [← Identified.name_of_cell? hc, heq, Identified.name_of_cell? hd]
  lookup := by
    intro l hl
    rw [h.lookups] at hl
    obtain ⟨a, ha, rfl⟩ := List.mem_map.mp hl
    exact ⟨a, ha, rfl, rfl⟩
  body := by
    intro a ha c hc
    rw [h.cells]
    exact List.mem_filterMap.mpr ⟨a, ha, hc⟩
  disposal := by
    intro d hd
    rw [h.disposals] at hd
    obtain ⟨x, hx, hdisposal⟩ := List.mem_filterMap.mp hd
    rw [Identified.disposal?, Option.ite_none_right_eq_some] at hdisposal
    obtain ⟨c, hc, hname⟩ := Option.map_eq_some_iff.mp hdisposal.2
    rw [h.cells_eq]
    exact ⟨c, List.mem_filterMap.mpr ⟨x, hx, hc⟩, hname⟩

/-- No cell is disposed of twice. -/
theorem disposals_nodup (h : p.Serves xs) : p.disposals.Nodup := by
  rw [h.disposals, List.Nodup, List.pairwise_filterMap]
  refine (List.pairwise_map.mp h.distinct).imp fun hne c hc d hd heq => hne (cellName_injective ?_)
  rw [← Identified.eq_of_disposal? hc, heq, Identified.eq_of_disposal? hd]

/-- An accessor of the provider delivers one of the services. -/
theorem exists_deliveredBy (h : p.Serves xs) {a : Accessor} (ha : a ∈ p.accessors) : ∃ x ∈ xs, x.DeliveredBy a :=
  exists_rel_of_mem_right h.delivers ha

theorem accessor_eq_of_name (h : p.Serves xs) {a b : Accessor} (ha : a ∈ p.accessors) (hb : b ∈ p.accessors)
    (hname : a.name = b.name) : a = b :=
  List.inj_on_of_nodup_map h.resolved.accessorNames ha hb hname

/-- No two accessors share a cell. -/
theorem accessor_eq_of_cell (h : p.Serves xs) {a b : Accessor} {c d : Cell} (ha : a ∈ p.accessors)
    (hb : b ∈ p.accessors) (hc : a.cell? = some c) (hd : b.cell? = some d) (hname : c.name = d.name) : a = b := by
  obtain ⟨x, -, hx⟩ := h.exists_deliveredBy ha
  obtain ⟨y, -, hy⟩ := h.exists_deliveredBy hb
  rw [hx.cell?_eq] at hc
  rw [hy.cell?_eq] at hd
  rw [Identified.name_of_cell? hc, Identified.name_of_cell? hd] at hname
  refine h.accessor_eq_of_name ha hb ?_
  rw [hx.name, hy.name, cellName_injective hname]

end Provider.Serves

/-! ### Both providers -/

/-- The container answers for the registrations: singletons and transients in the root provider, scoped ones in the
scoped provider, each by one lookup. -/
structure Container.WellFormed (c : Container) (rs : List Registration) : Prop where
  root : ∃ xs, c.rootProvider.Serves xs ∧
    xs.map (·.registration) = rs.filter fun r => r.lifetime = .singleton ∨ r.lifetime = .transient
  inScope : ∃ xs, c.scopedProvider.Serves xs ∧
    xs.map (·.registration) = rs.filter fun r => r.lifetime = .scoped
  rootKeys : c.rootProvider.lookups.map (·.key) =
    (rs.filter fun r => r.lifetime = .singleton ∨ r.lifetime = .transient).map (·.key)
  scopedKeys : c.scopedProvider.lookups.map (·.key) = (rs.filter fun r => r.lifetime = .scoped).map (·.key)
  distinct : ((c.rootProvider.lookups ++ c.scopedProvider.lookups).map (·.key.display)).Nodup
  rootLookup : ∀ r ∈ rs, c.rootProvider.lookups.countP (·.key == r.key) = if r.lifetime = .scoped then 0 else 1
  scopedLookup : ∀ r ∈ rs, c.scopedProvider.lookups.countP (·.key == r.key) = if r.lifetime = .scoped then 1 else 0
  rootResolved : c.rootProvider.Resolved
  scopedResolved : c.scopedProvider.Resolved

theorem rootRegistrations_eq (rs : List Registration) :
    rootRegistrations rs = rs.filter fun r => r.lifetime = .singleton ∨ r.lifetime = .transient := by
  refine List.filter_congr fun r _ => ?_
  rw [Bool.eq_iff_iff, Lifetime.belongsToRoot_iff, decide_eq_true_iff]

theorem scopedRegistrations_eq (rs : List Registration) :
    scopedRegistrations rs = rs.filter fun r => r.lifetime = .scoped := by
  refine List.filter_congr fun r _ => ?_
  cases r.lifetime <;> rfl

section

variable {o : Options} {rs : List Registration} {c : Container}

/-- A provider for each part of the registrations. -/
theorem Container.serves_of_layOut (hrs : ∀ r ∈ rs, r.key.IsLexical) (h : Container.layOut o rs = .ok c) :
    (c.rootProvider.kind = .root ∧ ∃ xs, xs.map (·.registration) = rootRegistrations rs ∧ c.rootProvider.Serves xs) ∧
    (c.scopedProvider.kind = .scoped ∧
      ∃ xs, xs.map (·.registration) = scopedRegistrations rs ∧ c.scopedProvider.Serves xs) := by
  have hmade := Container.layOut_eq_ok.mp h
  exact ⟨⟨hmade.root.kind, hmade.root.serves fun r hr => hrs r (List.mem_filter.mp hr).1⟩,
    hmade.nested.kind, hmade.nested.serves fun r hr => hrs r (List.mem_filter.mp hr).1⟩

end

/-- A key is in the two parts of registrations with different keys once, in the part of its lifetime. -/
theorem count_key {rs : List Registration} (hdistinct : (rs.map (·.key.display)).Nodup) {r : Registration}
    (hr : r ∈ rs) :
    ((rootRegistrations rs).map (·.key.display)).count r.key.display = (if r.lifetime = .scoped then 0 else 1) ∧
    ((scopedRegistrations rs).map (·.key.display)).count r.key.display = if r.lifetime = .scoped then 1 else 0 := by
  have hperm : (rootRegistrations rs ++ scopedRegistrations rs).Perm rs := List.filter_append_perm _ rs
  have hone : (rs.map (·.key.display)).count r.key.display = 1 :=
    List.count_eq_one_of_mem hdistinct (List.mem_map_of_mem hr)
  -- The key is in the two parts once in all, so it is enough to say which part it is in.
  have hsum := (hperm.map (·.key.display)).count_eq r.key.display
  rw [List.map_append, List.count_append, hone] at hsum
  have hpos (part : List Registration) (hmem : r ∈ part) :
      0 < (part.map (·.key.display)).count r.key.display :=
    List.count_pos_iff.mpr (List.mem_map_of_mem hmem)
  split
  next hl =>
    have hscoped := hpos (scopedRegistrations rs) (List.mem_filter.mpr ⟨hr, by simp [hl, Lifetime.belongsToRoot]⟩)
    omega
  next hl =>
    have hroot := hpos (rootRegistrations rs)
      (List.mem_filter.mpr ⟨hr, Lifetime.belongsToRoot_iff.mpr (by cases h : r.lifetime <;> simp_all)⟩)
    omega

theorem countP_key (ls : List Lookup) (key : TypeExpr) :
    ls.countP (·.key == key) = (ls.map (·.key.display)).count key.display := by
  rw [List.count, List.countP_map]
  rfl

/-- Every container that is laid out is well-formed. -/
theorem Container.wellFormed {o : Options} {rs : List Registration} {c : Container}
    (hrs : ∀ r ∈ rs, r.key.IsLexical) (h : (Container.ofRegistrations o rs).outcome = .ok c) : c.WellFormed rs := by
  obtain ⟨hunique, hlayout⟩ := Container.ofRegistrations_eq_ok h
  obtain ⟨⟨-, xs, hxs, hroot⟩, -, ys, hys, hscoped⟩ := Container.serves_of_layOut hrs hlayout
  have hdistinct := checkUniqueKeys_eq_ok.mp hunique
  have hrootKeys : c.rootProvider.lookups.map (·.key) = (rootRegistrations rs).map (·.key) := by
    rw [hroot.lookups_keys, ← hxs, List.map_map]
    rfl
  have hscopedKeys : c.scopedProvider.lookups.map (·.key) = (scopedRegistrations rs).map (·.key) := by
    rw [hscoped.lookups_keys, ← hys, List.map_map]
    rfl
  -- Keys are equal as lists of trees, and are compared by their texts.
  have hdisplay {ls : List Lookup} {part : List Registration} (hkeys : ls.map (·.key) = part.map (·.key)) :
      ls.map (·.key.display) = part.map (·.key.display) := by
    have hdisplays := congrArg (List.map TypeExpr.display) hkeys
    rwa [List.map_map, List.map_map] at hdisplays
  refine ⟨⟨xs, hroot, ?_⟩, ⟨ys, hscoped, ?_⟩, ?_, ?_, ?_, fun r hr => ?_, fun r hr => ?_, hroot.resolved,
    hscoped.resolved⟩
  · rw [hxs, rootRegistrations_eq]
  · rw [hys, scopedRegistrations_eq]
  · rw [hrootKeys, rootRegistrations_eq]
  · rw [hscopedKeys, scopedRegistrations_eq]
  · rw [List.map_append, hdisplay hrootKeys, hdisplay hscopedKeys, ← List.map_append]
    exact ((List.filter_append_perm _ rs).map _).nodup_iff.mpr hdistinct
  · rw [countP_key, hdisplay hrootKeys]
    exact (count_key hdistinct hr).1
  · rw [countP_key, hdisplay hscopedKeys]
    exact (count_key hdistinct hr).2

namespace Sample

/-- A registration of a type under its own name. -/
def registered (name : String) (lifetime : Lifetime) (construction : Construction) (disposable : Bool) :
    Registration where
  key := .ofName name
  implementation := .ofName name
  lifetime
  construction
  disposable
  origin := .own
  ambiguous := false

/-- A singleton. -/
def clock : Registration := registered "Clock" .singleton .unitLiteral false

/-- A transient service. -/
def ticket : Registration := registered "Ticket" .transient (.constructor "new" [.shared (.ofName "Clock")]) false

/-- A scoped service. -/
def session : Registration := registered "Session" .scoped (.constructor "new" [.shared (.ofName "Clock")]) true

/-- A service of each lifetime. -/
def trio : List Registration := [clock, ticket, session]

end Sample

theorem Sample.trio_isLexical : ∀ r ∈ Sample.trio, r.key.IsLexical := by
  intro r hr
  simp only [Sample.trio, List.mem_cons, List.not_mem_nil, or_false] at hr
  rcases hr with rfl | rfl | rfl <;> exact TypeExpr.isLexical_ofName (by decide +kernel)

theorem Sample.trio_laidOut : ∃ c, (Container.ofRegistrations {} Sample.trio).outcome = .ok c :=
  ⟨_, eq_ok_of_isSome (by decide +kernel)⟩

/-- The layout of a service of each lifetime. -/
theorem Container.wellFormed_trio :
    ∃ c, (Container.ofRegistrations {} Sample.trio).outcome = .ok c ∧ c.WellFormed Sample.trio := by
  obtain ⟨c, hc⟩ := Sample.trio_laidOut
  exact ⟨c, hc, Container.wellFormed Sample.trio_isLexical hc⟩

end ServiceContainer
