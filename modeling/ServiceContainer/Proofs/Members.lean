import Mathlib.Data.List.Forall2
import Mathlib.Data.List.Nodup
import ServiceContainer.Container.Layout
import ServiceContainer.Proofs.Selection

/-!
# The members of providers

What a provider has for a service depends on the registration of the service alone. So the lists of members are those
of the registrations, in their order, and a container can be laid out when the keys are distinct, the identifiers are
distinct in each provider, and every registration has its members. Nothing is assumed here of how keys are written.

## Main definitions

* `Registration.accessor`, `Registration.disposal?` — the members for a registration
* `Provider.MadeFrom`, `Container.MadeFrom` — the members of all registrations

## Main statements

* `checkUniqueKeys_eq_ok` — when the keys pass the check
* `Provider.build_eq_ok` — which provider is built, and when
* `Container.ofRegistrations_eq_ok_iff` — which container is laid out, and when
* `Container.MadeFrom.ofRegistrations_eq` — the warnings about shadowing, one registration at a time
-/

namespace ServiceContainer

/-! ### Keys -/

theorem repeatedKey?_eq_none {before rs : List Registration} : repeatedKey? before rs = none ↔
    (∀ r ∈ rs, ∀ b ∈ before, b.key.display ≠ r.key.display) ∧ (rs.map (·.key.display)).Nodup := by
  -- What was passed is compared with everything that follows, so both parts go through the induction together.
  induction rs generalizing before with
  | nil => simp [repeatedKey?]
  | cons r rest ih =>
    rw [repeatedKey?]
    split
    next first hfirst =>
      have hkey : first.key.display = r.key.display := TypeExpr.beq_iff.mp (by simpa using List.find?_some hfirst)
      exact iff_of_false nofun fun h => h.1 r List.mem_cons_self first (List.mem_of_find?_eq_some hfirst) hkey
    next hnone =>
      have hr : ∀ b ∈ before, b.key.display ≠ r.key.display := fun b hb heq =>
        List.find?_eq_none.mp hnone b hb (TypeExpr.beq_iff.mpr heq)
      rw [ih, List.forall_mem_cons, and_iff_right hr, List.map_cons, List.nodup_cons, ← and_assoc]
      refine and_congr_left fun _ => ?_
      constructor
      · intro h
        refine ⟨fun s hs b hb => h s hs b (List.mem_cons_of_mem r hb), fun hmem => ?_⟩
        obtain ⟨s, hs, heq⟩ := List.mem_map.mp hmem
        exact h s hs r List.mem_cons_self heq.symm
      · rintro ⟨hrest, hnew⟩ s hs
        refine List.forall_mem_cons.mpr ⟨fun heq => hnew ?_, hrest s hs⟩
        exact heq ▸ List.mem_map_of_mem hs

/-- Registrations pass the check when they have different keys. -/
theorem checkUniqueKeys_eq_ok {rs : List Registration} :
    checkUniqueKeys rs = .ok () ↔ (rs.map (·.key.display)).Nodup := by
  have hnone : repeatedKey? [] rs = none ↔ (rs.map (·.key.display)).Nodup := by simp [repeatedKey?_eq_none]
  rw [← hnone, checkUniqueKeys]
  split
  next h => simp [h]
  next h => simp [h]

/-! ### One registration -/

/-- The cell that an accessor fills. -/
def Accessor.cell? (a : Accessor) : Option Cell :=
  match a.body with
  | .memoized cell implementation _ => some ⟨cell, implementation⟩
  | .fresh _ _ => none

/-- The identifier of a registration, if its key has a name. -/
def Registration.identifier? (r : Registration) : Option String := (serviceIdentifier r.key).toOption

/-- The accessor for a registration with an identifier. -/
def Registration.accessorNamed (r : Registration) (id : String) : Except GenerationError Accessor := do
  let name ← identifier (accessorName id)
  let construct ← Construct.ofRegistration r
  if r.lifetime.isMemoized then
    let cell ← identifier (cellName id)
    return ⟨name, r.key, .memoized cell r.implementation construct⟩
  else return ⟨name, r.key, .fresh r.implementation construct⟩

/-- The accessor for a registration. -/
def Registration.accessor (r : Registration) : Except GenerationError Accessor := do
  r.accessorNamed (← serviceIdentifier r.key)

/-- The accessor for a registration, if there is one. -/
def Registration.accessor? (r : Registration) : Option Accessor := r.accessor.toOption

/-- The cell of a registration that is disposed of, if there is one. -/
def Registration.disposal? (r : Registration) : Option String :=
  if r.disposable then (r.accessor?.bind Accessor.cell?).map (·.name) else none

/-- The lookup that leads to an accessor. -/
def Accessor.lookup (a : Accessor) : Lookup := ⟨a.key, a.name⟩

/-- The provider with the members of one more registration. -/
def Provider.push (p : Provider) (r : Registration) (a : Accessor) : Provider :=
  { p with
    accessors := p.accessors ++ [a]
    lookups := p.lookups ++ [a.lookup]
    cells := p.cells ++ a.cell?.toList
    disposals := p.disposals ++ (if r.disposable then a.cell?.map (·.name) else none).toList }

/-- The provider with the members of further registrations. -/
def Provider.extend (p : Provider) (rs : List Registration) : Provider :=
  { p with
    accessors := p.accessors ++ rs.filterMap Registration.accessor?
    lookups := p.lookups ++ (rs.filterMap Registration.accessor?).map Accessor.lookup
    cells := p.cells ++ (rs.filterMap Registration.accessor?).filterMap Accessor.cell?
    disposals := p.disposals ++ rs.filterMap Registration.disposal? }

section

variable {p q : Provider} {r : Registration} {rs : List Registration} {id : String} {a : Accessor}

@[simp] theorem Provider.extend_nil (p : Provider) : p.extend [] = p := by simp [Provider.extend]

theorem Registration.accessor?_eq_some (h : r.accessor = .ok a) : r.accessor? = some a := by
  rw [accessor?, h]
  rfl

theorem Registration.identifier?_eq_some (h : serviceIdentifier r.key = .ok id) : r.identifier? = some id := by
  rw [identifier?, h]
  rfl

/-- A registration with an accessor has an identifier. -/
theorem Registration.exists_identifier (h : r.accessor = .ok a) : ∃ id, serviceIdentifier r.key = .ok id := by
  obtain ⟨id, hid, -⟩ := bind_eq_ok.mp h
  exact ⟨id, hid⟩

theorem Provider.extend_cons (h : r.accessor = .ok a) (rs : List Registration) :
    p.extend (r :: rs) = (p.push r a).extend rs := by
  have ha := Registration.accessor?_eq_some h
  have hdisposal : r.disposal? = if r.disposable then a.cell?.map (·.name) else none := by
    rw [Registration.disposal?, ha, Option.bind_some]
  have hcells : (r :: rs).filterMap Registration.accessor? = a :: rs.filterMap Registration.accessor? :=
    List.filterMap_cons_some ha
  have hdisposals : (r :: rs).filterMap Registration.disposal? =
      (if r.disposable then a.cell?.map (·.name) else none).toList ++ rs.filterMap Registration.disposal? := by
    rw [← hdisposal, List.filterMap_cons]
    cases r.disposal? <;> rfl
  have hcell : (a :: rs.filterMap Registration.accessor?).filterMap Accessor.cell? =
      a.cell?.toList ++ (rs.filterMap Registration.accessor?).filterMap Accessor.cell? := by
    rw [List.filterMap_cons]
    cases a.cell? <;> rfl
  rw [Provider.extend, Provider.extend, Provider.push, hcells, hdisposals, hcell]
  simp

theorem Registration.accessor_eq (hid : serviceIdentifier r.key = .ok id) : r.accessor = r.accessorNamed id := by
  rw [accessor, hid]
  rfl

/-- A service is added with the members of its registration. -/
theorem Provider.add_eq (p : Provider) (id : String) (r : Registration) :
    p.add id r = (r.accessorNamed id).map (p.push r) := by
  rw [Provider.add, Registration.accessorNamed]
  -- Both sides check the same names in the same order, so each error is the error of both.
  cases identifier (accessorName id) with
  | error e => rfl
  | ok name =>
    cases Construct.ofRegistration r with
    | error e => rfl
    | ok construct =>
      simp only [bind, Except.bind, pure, Except.pure, Except.map]
      by_cases hm : r.lifetime.isMemoized = true
      · rw [if_pos hm, if_pos hm]
        cases identifier (cellName id) with
        | error e => rfl
        | ok cell => cases hd : r.disposable <;> simp [hd, Provider.push, Accessor.cell?, Accessor.lookup]
      · rw [if_neg hm, if_neg hm]
        simp [Provider.push, Accessor.cell?, Accessor.lookup]

/-! ### All registrations -/

/-- Further services are added when each has its members, and an identifier that is not one of those before. -/
theorem Provider.addAll_eq_ok {before : List Identified} : p.addAll before rs = .ok q ↔
    (∀ r ∈ rs, ∃ a, r.accessor = .ok a) ∧ (rs.map Registration.identifier?).Nodup ∧
      (∀ r ∈ rs, ∀ x ∈ before, r.identifier? ≠ some x.identifier) ∧ q = p.extend rs := by
  -- The induction is on the services still to add; those before them matter only for their identifiers.
  induction rs generalizing p before with
  | nil =>
    rw [Provider.addAll, pure_eq_ok]
    simp [eq_comm]
  | cons r rest ih =>
    rw [Provider.addAll, bind_eq_ok, List.forall_mem_cons, List.map_cons, List.nodup_cons, List.forall_mem_cons]
    constructor
    · rintro ⟨id, hid, h⟩
      split at h
      · exact nomatch h
      next hnone =>
        rw [Provider.add_eq, ← Registration.accessor_eq hid] at h
        obtain ⟨added, hadded, h⟩ := bind_eq_ok.mp h
        cases ha : r.accessor with
        | error e =>
          rw [ha] at hadded
          exact nomatch hadded
        | ok a =>
          rw [ha] at hadded
          obtain rfl := Except.ok.inj hadded
          obtain ⟨haccessors, hnodup, hnew, rfl⟩ := ih.mp h
          have hidentifier := Registration.identifier?_eq_some hid
          refine ⟨⟨⟨a, rfl⟩, haccessors⟩, ⟨?_, hnodup⟩, ⟨fun x hx heq => ?_, fun s hs x hx => ?_⟩,
            (Provider.extend_cons ha rest).symm⟩
          -- The first service is among those before the rest, so no later one has its identifier.
          · rintro hmem
            obtain ⟨s, hs, heq⟩ := List.mem_map.mp hmem
            exact hnew s hs ⟨id, r⟩ List.mem_cons_self (heq.trans hidentifier)
          · rw [hidentifier, Option.some.injEq] at heq
            exact List.find?_eq_none.mp hnone x hx (beq_iff_eq.mpr heq.symm)
          · exact hnew s hs x (List.mem_cons_of_mem _ hx)
    · rintro ⟨⟨⟨a, ha⟩, haccessors⟩, ⟨hfirst, hnodup⟩, ⟨hnew, hrest⟩, rfl⟩
      obtain ⟨id, hid⟩ := Registration.exists_identifier ha
      have hidentifier := Registration.identifier?_eq_some hid
      have hnone : before.find? (·.identifier == id) = none := by
        refine List.find?_eq_none.mpr fun x hx heq => hnew x hx ?_
        rw [hidentifier, beq_iff_eq.mp heq]
      refine ⟨id, hid, ?_⟩
      rw [hnone, Provider.add_eq, ← Registration.accessor_eq hid, ha]
      refine ih.mpr ⟨haccessors, hnodup, fun s hs => ?_, Provider.extend_cons ha rest⟩
      refine List.forall_mem_cons.mpr ⟨fun heq => hfirst ?_, hrest s hs⟩
      rw [hidentifier, ← heq]
      exact List.mem_map_of_mem hs

end

/-- The provider has the members of the registrations, in their order. -/
structure Provider.MadeFrom (kind : ProviderKind) (text : String) (rs : List Registration) (p : Provider) : Prop where
  kind : p.kind = kind
  name : identifier text = .ok p.name
  state : p.state = some (stateName p.name)
  accessible : ∀ r ∈ rs, ∃ a, r.accessor = .ok a
  distinct : (rs.map Registration.identifier?).Nodup
  accessors : p.accessors = rs.filterMap Registration.accessor?
  lookups : p.lookups = p.accessors.map Accessor.lookup
  cells : p.cells = p.accessors.filterMap Accessor.cell?
  disposals : p.disposals = rs.filterMap Registration.disposal?

/-- The container has the providers of both parts of the registrations. -/
structure Container.MadeFrom (o : Options) (rs : List Registration) (c : Container) : Prop where
  moduleName : identifier o.moduleName = .ok c.moduleName
  runtime : runtimePath o.runtimePath = .ok c.runtime
  root : c.rootProvider.MadeFrom .root o.rootName (rootRegistrations rs)
  nested : c.scopedProvider.MadeFrom .scoped o.scopedName (scopedRegistrations rs)

section

variable {kind : ProviderKind} {text : String} {o : Options} {rs : List Registration} {p : Provider} {c : Container}

/-- The provider that is built is the one with the members of the registrations. -/
theorem Provider.build_eq_ok : Provider.build kind text rs = .ok p ↔ p.MadeFrom kind text rs := by
  rw [Provider.build, bind_eq_ok]
  constructor
  · rintro ⟨name, hname, h⟩
    -- Nothing is before the first service, so only the services among themselves can collide.
    obtain ⟨haccessible, hdistinct, -, rfl⟩ := Provider.addAll_eq_ok.mp h
    exact ⟨rfl, hname, rfl, haccessible, hdistinct, rfl, rfl, rfl, rfl⟩
  · intro h
    refine ⟨p.name, h.name, Provider.addAll_eq_ok.mpr ⟨h.accessible, h.distinct, by simp, ?_⟩⟩
    rw [Provider.extend, List.nil_append, List.nil_append, List.nil_append, List.nil_append, ← h.kind, ← h.state,
      ← h.accessors, ← h.lookups, ← h.cells, ← h.disposals]

theorem Container.layOut_eq_ok : Container.layOut o rs = .ok c ↔ c.MadeFrom o rs := by
  simp only [Container.layOut, bind_eq_ok, pure_eq_ok, Provider.build_eq_ok]
  constructor
  · rintro ⟨root, hroot, nested, hnested, runtime, hruntime, name, hname, rfl⟩
    exact ⟨hname, hruntime, hroot, hnested⟩
  · exact fun h => ⟨_, h.root, _, h.nested, _, h.runtime, _, h.moduleName, rfl⟩

end

/-! ### Shadowing -/

/-- The registration with its identifier, if its key has a name. -/
def Registration.identified? (r : Registration) : Option Identified := r.identifier?.map (⟨·, r⟩)

/-- The warning about a scoped registration whose identifier a root registration has too, if one has. -/
def shadowNotes (inRoot : List Identified) (r : Registration) : List Diagnostic :=
  r.identified?.toList.flatMap fun x =>
    (inRoot.find? (·.identifier == x.identifier)).toList.map (shadowWarning x.identifier r ·.registration)

section

variable {inRoot inScope rs : List Registration} {r : Registration} {o : Options} {c : Container}

theorem Registration.identified_of_identifier {id : String} (hid : serviceIdentifier r.key = .ok id) :
    Identified.ofRegistration r = .ok ⟨id, r⟩ ∧ r.identified? = some ⟨id, r⟩ := by
  refine ⟨bind_eq_ok.mpr ⟨id, hid, rfl⟩, ?_⟩
  rw [identified?, identifier?_eq_some hid, Option.map_some]

theorem identifiers_nodup (hdistinct : (rs.map Registration.identifier?).Nodup) :
    ((rs.filterMap Registration.identified?).map (·.identifier)).Nodup := by
  have hidentifiers : (rs.filterMap Registration.identified?).map (·.identifier) =
      (rs.map Registration.identifier?).filterMap id := by
    rw [List.map_filterMap, List.filterMap_map]
    refine List.filterMap_congr fun r _ => ?_
    rw [Registration.identified?, Option.map_map]
    exact Option.map_id'
  rw [hidentifiers]
  exact hdistinct.filterMap fun a b x ha hb => (Option.mem_def.mp ha).trans (Option.mem_def.mp hb).symm

/-- Warning of shadowing cannot fail where every key has a name. -/
theorem warnShadowing_eq {identified : List Identified} (h : ∀ r ∈ rs, ∃ id, serviceIdentifier r.key = .ok id) :
    warnShadowing identified rs = ⟨rs.flatMap (shadowNotes identified), .ok ()⟩ := by
  induction rs with
  | nil => rfl
  | cons r rest ih =>
    obtain ⟨⟨id, hid⟩, hrest⟩ := List.forall_mem_cons.mp h
    obtain ⟨hx, hidentified⟩ := Registration.identified_of_identifier hid
    have hx : (Noted.ofExcept (Identified.ofRegistration r)).outcome = .ok ⟨id, r⟩ := hx
    rw [warnShadowing, Noted.bind_ok _ hx, List.flatMap_cons, shadowNotes, hidentified, Option.toList_some,
      List.flatMap_singleton]
    cases identified.find? (·.identifier == id) with
    | none =>
      dsimp only
      rw [ih hrest]
      rfl
    | some first =>
      dsimp only
      rw [Noted.bind_ok _ (Noted.tell_outcome _), ih hrest]
      rfl

theorem mapM_ofRegistration (h : ∀ r ∈ rs, ∃ id, serviceIdentifier r.key = .ok id) :
    rs.mapM Identified.ofRegistration = .ok (rs.filterMap Registration.identified?) := by
  refine mapM_eq_ok.mpr ?_
  induction rs with
  | nil => exact .nil
  | cons r rest ih =>
    obtain ⟨⟨id, hid⟩, hrest⟩ := List.forall_mem_cons.mp h
    obtain ⟨hx, hidentified⟩ := Registration.identified_of_identifier hid
    rw [List.filterMap_cons_some hidentified]
    exact .cons hx (ih hrest)

/-- Looking for shadowing cannot fail where every key has a name. -/
theorem checkSharedIdentifiers_eq (hroot : ∀ r ∈ inRoot, ∃ id, serviceIdentifier r.key = .ok id)
    (hscope : ∀ r ∈ inScope, ∃ id, serviceIdentifier r.key = .ok id) :
    checkSharedIdentifiers inRoot inScope =
      ⟨inScope.flatMap (shadowNotes (inRoot.filterMap Registration.identified?)), .ok ()⟩ := by
  have hidentified : (Noted.ofExcept (inRoot.mapM Identified.ofRegistration)).outcome = .ok _ :=
    mapM_ofRegistration hroot
  rw [checkSharedIdentifiers, Noted.bind_ok _ hidentified, warnShadowing_eq hscope]
  rfl

/-- The container that is laid out is the one with the members of the registrations, and what is warned of is
shadowing. -/
theorem Container.MadeFrom.ofRegistrations_eq (h : c.MadeFrom o rs) (hkeys : (rs.map (·.key.display)).Nodup) :
    Container.ofRegistrations o rs = ⟨(scopedRegistrations rs).flatMap
      (shadowNotes ((rootRegistrations rs).filterMap Registration.identified?)), .ok c⟩ := by
  have hunique : (Noted.ofExcept (checkUniqueKeys rs)).outcome = .ok () := checkUniqueKeys_eq_ok.mpr hkeys
  have hnamed : ∀ {rs' : List Registration}, (∀ r ∈ rs', ∃ a, r.accessor = .ok a) →
      ∀ r ∈ rs', ∃ id, serviceIdentifier r.key = .ok id :=
    fun haccessible r hr => Registration.exists_identifier (haccessible r hr).choose_spec
  have hshared := checkSharedIdentifiers_eq (hnamed h.root.accessible) (hnamed h.nested.accessible)
  have hlayOut : (Noted.ofExcept (Container.layOut o rs)).outcome = .ok c := Container.layOut_eq_ok.mpr h
  rw [Container.ofRegistrations, Noted.bind_ok _ hunique, hshared, Noted.bind_ok _ rfl, hlayOut]
  simp [Noted.ofExcept]

theorem Container.ofRegistrations_eq_ok (h : (Container.ofRegistrations o rs).outcome = .ok c) :
    checkUniqueKeys rs = .ok () ∧ Container.layOut o rs = .ok c := by
  obtain ⟨_, hunique, h⟩ := Noted.outcome_bind_eq_ok.mp h
  obtain ⟨_, -, h⟩ := Noted.outcome_bind_eq_ok.mp h
  exact ⟨hunique, h⟩

theorem Container.ofRegistrations_eq_ok_iff : (Container.ofRegistrations o rs).outcome = .ok c ↔
    (rs.map (·.key.display)).Nodup ∧ c.MadeFrom o rs := by
  constructor
  · intro h
    obtain ⟨hunique, hlayOut⟩ := Container.ofRegistrations_eq_ok h
    exact ⟨checkUniqueKeys_eq_ok.mp hunique, Container.layOut_eq_ok.mp hlayOut⟩
  · rintro ⟨hkeys, h⟩
    rw [h.ofRegistrations_eq hkeys]

end

end ServiceContainer
