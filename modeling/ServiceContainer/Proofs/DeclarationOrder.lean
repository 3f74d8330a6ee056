import ServiceContainer.Generation
import ServiceContainer.Proofs.Members

/-!
# The order of declarations

When declarations have different names, their order does not decide what is generated. Every stage is a search that has
at most one answer, or treats one declaration or registration at a time; so its result is that of the same functions
along the list, and a permutation of the declarations permutes the registrations, the members of the providers and the
diagnostics. A generation fails in any order or in none.

## Main definitions

* `Candidate.registration?` — the registration of a candidate
* `Provider.Permuted`, `Container.Permuted` — providers and containers with the same members in other orders

## Main statements

* `ofDeclaration?_perm` — which declarations are candidates, and with which markers
* `compose_eq_ok`, `compose_notes` — the way from declarations to containers, one declaration at a time
* `generate_perm` — generations for permuted declarations
-/

namespace ServiceContainer

/-! ### Searches with one answer -/

section

variable {α : Type} {f : α → String} {xs ys : List α}

theorem find?_eq_some_of_keys (hkeys : (xs.map f).Nodup) {key : String} {x : α} :
    xs.find? (f · == key) = some x ↔ x ∈ xs ∧ f x = key := by
  constructor
  · intro h
    exact ⟨List.mem_of_find?_eq_some h, by simpa using List.find?_some h⟩
  · rintro ⟨hx, rfl⟩
    cases hy : xs.find? (f · == f x) with
    | none => exact absurd (beq_self_eq_true _) (List.find?_eq_none.mp hy x hx)
    | some y =>
      have hkey : f y = f x := by simpa using List.find?_some hy
      rw [List.inj_on_of_nodup_map hkeys (List.mem_of_find?_eq_some hy) hx hkey]

/-- What has a key is found in any order, if keys are distinct. -/
theorem find?_eq_of_perm (h : xs.Perm ys) (hkeys : (xs.map f).Nodup) (key : String) :
    xs.find? (f · == key) = ys.find? (f · == key) := by
  refine Option.ext fun x => ?_
  rw [find?_eq_some_of_keys hkeys, find?_eq_some_of_keys ((h.map f).nodup_iff.mp hkeys), h.mem_iff]

end

/-! ### Candidates -/

section

variable {ds ds' : List Declaration} (hnames : (ds.map Declaration.definitionName).Nodup) (hperm : ds.Perm ds')

include hnames hperm

theorem findDeclaration?_perm (reference : TypeExpr) : findDeclaration? ds reference = findDeclaration? ds' reference :=
  Option.bind_congr fun name _ => find?_eq_of_perm hperm hnames name

/-- The markers that apply to a declaration do not depend on the order. -/
theorem markerSources_perm (d : Declaration) : markerSources ds d = markerSources ds' d := by
  have hmarkers : markersOf ds = markersOf ds' := by
    funext reference
    rw [markersOf, markersOf, findDeclaration?_perm hnames hperm]
  rw [markerSources, markerSources, hmarkers]

theorem ofDeclaration?_perm : Candidate.ofDeclaration? ds = Candidate.ofDeclaration? ds' := by
  funext d
  rw [Candidate.ofDeclaration?, Candidate.ofDeclaration?, markerSources_perm hnames hperm]

theorem candidates_perm : (candidates ds).Perm (candidates ds') := by
  rw [candidates, candidates, ← ofDeclaration?_perm hnames hperm]
  exact hperm.filterMap _

end

/-! ### Registrations -/

/-- The registration of a candidate, if it has one. -/
def Candidate.registration? (strict : Bool) (c : Candidate) : Option Registration :=
  (Registration.ofCandidate strict c).outcome.toOption

/-- What is noted about a candidate. -/
def Candidate.notes (strict : Bool) (c : Candidate) : List Diagnostic := (Registration.ofCandidate strict c).notes

/-- The candidate has a registration. -/
def Candidate.Registers (strict : Bool) (c : Candidate) : Prop :=
  ∃ r, (Registration.ofCandidate strict c).outcome = .ok r

section

variable {strict : Bool} {cs cs' : List Candidate} {rs : List Registration}

theorem registrations_eq (h : ∀ c ∈ cs, c.Registers strict) :
    registrations strict cs =
      ⟨cs.flatMap (Candidate.notes strict), .ok (cs.filterMap (Candidate.registration? strict))⟩ := by
  induction cs with
  | nil => rfl
  | cons c rest ih =>
    obtain ⟨⟨r, hr⟩, hrest⟩ := List.forall_mem_cons.mp h
    have hregistration : c.registration? strict = some r := by
      rw [Candidate.registration?, hr]
      rfl
    rw [registrations, Noted.bind_ok _ hr, ih hrest, List.flatMap_cons, List.filterMap_cons_some hregistration,
      Noted.bind_ok _ rfl, Candidate.notes]
    simp

theorem forall_registers_of_registrations (h : (registrations strict cs).outcome = .ok rs) :
    ∀ c ∈ cs, c.Registers strict := by
  induction cs generalizing rs with
  | nil => simp
  | cons c rest ih =>
    obtain ⟨r, hr, h⟩ := Noted.outcome_bind_eq_ok.mp h
    obtain ⟨more, hmore, -⟩ := Noted.outcome_bind_eq_ok.mp h
    exact List.forall_mem_cons.mpr ⟨⟨r, hr⟩, ih hmore⟩

end

/-! ### Members -/

/-- The providers have the same members, in orders of their own. -/
structure Provider.Permuted (p p' : Provider) : Prop where
  kind : p.kind = p'.kind
  name : p.name = p'.name
  state : p.state = p'.state
  accessors : p.accessors.Perm p'.accessors
  lookups : p.lookups.Perm p'.lookups
  cells : p.cells.Perm p'.cells
  disposals : p.disposals.Perm p'.disposals

/-- The containers have the same names and providers with the same members. -/
structure Container.Permuted (c c' : Container) : Prop where
  moduleName : c.moduleName = c'.moduleName
  runtime : c.runtime = c'.runtime
  root : c.rootProvider.Permuted c'.rootProvider
  nested : c.scopedProvider.Permuted c'.scopedProvider

section

variable {kind : ProviderKind} {text : String} {o : Options} {rs rs' : List Registration} {p p' : Provider}
variable {c c' : Container} (hrs : rs.Perm rs')

include hrs

theorem Provider.MadeFrom.permuted (h : p.MadeFrom kind text rs) (h' : p'.MadeFrom kind text rs') : p.Permuted p' := by
  have hname : p.name = p'.name := Except.ok.inj (h.name.symm.trans h'.name)
  have haccessors : p.accessors.Perm p'.accessors := by
    rw [h.accessors, h'.accessors]
    exact hrs.filterMap _
  refine ⟨h.kind.trans h'.kind.symm, hname, by rw [h.state, h'.state, hname], haccessors, ?_, ?_, ?_⟩
  · rw [h.lookups, h'.lookups]
    exact haccessors.map _
  · rw [h.cells, h'.cells]
    exact haccessors.filterMap _
  · rw [h.disposals, h'.disposals]
    exact hrs.filterMap _

/-- There is a provider for the registrations in any order. -/
theorem Provider.MadeFrom.exists_of_perm (h : p.MadeFrom kind text rs) : ∃ p' : Provider, p'.MadeFrom kind text rs' :=
  ⟨Provider.extend { kind := p.kind, name := p.name, state := p.state } rs', h.kind, h.name, h.state,
    fun r hr => h.accessible r (hrs.mem_iff.mpr hr), (hrs.map _).nodup_iff.mp h.distinct, rfl, rfl, rfl, rfl⟩

theorem rootRegistrations_perm : (rootRegistrations rs).Perm (rootRegistrations rs') := hrs.filter _

theorem scopedRegistrations_perm : (scopedRegistrations rs).Perm (scopedRegistrations rs') := hrs.filter _

theorem Container.MadeFrom.permuted (h : c.MadeFrom o rs) (h' : c'.MadeFrom o rs') : c.Permuted c' where
  moduleName := Except.ok.inj (h.moduleName.symm.trans h'.moduleName)
  runtime := Except.ok.inj (h.runtime.symm.trans h'.runtime)
  root := h.root.permuted (rootRegistrations_perm hrs) h'.root
  nested := h.nested.permuted (scopedRegistrations_perm hrs) h'.nested

theorem Container.MadeFrom.exists_of_perm (h : c.MadeFrom o rs) : ∃ c' : Container, c'.MadeFrom o rs' := by
  obtain ⟨root, hroot⟩ := h.root.exists_of_perm (rootRegistrations_perm hrs)
  obtain ⟨nested, hnested⟩ := h.nested.exists_of_perm (scopedRegistrations_perm hrs)
  exact ⟨⟨c.moduleName, c.runtime, root, nested⟩, h.moduleName, h.runtime, hroot, hnested⟩

/-- The warnings about shadowing are the same for root registrations in any order. -/
theorem shadowNotes_perm (hdistinct : (rs.map Registration.identifier?).Nodup) :
    shadowNotes (rs.filterMap Registration.identified?) = shadowNotes (rs'.filterMap Registration.identified?) := by
  funext r
  -- No two services of a provider have one identifier, so the first with it is the only one.
  rw [shadowNotes, shadowNotes]
  congr 1
  funext x
  rw [find?_eq_of_perm (hrs.filterMap _) (identifiers_nodup hdistinct)]

end

/-! ### From declarations to containers -/

section

variable {o : Options} {ds ds' : List Declaration} {rs : List Registration} {c : Container}

/-- The result of the whole way, and what is noted on it. -/
theorem compose_eq (hregisters : ∀ x ∈ candidates ds, x.Registers o.strictMarkers)
    (hrs : rs = (candidates ds).filterMap (Candidate.registration? o.strictMarkers))
    (hkeys : (rs.map (·.key.display)).Nodup) (hc : c.MadeFrom o rs) :
    compose o ds = ⟨(candidates ds).flatMap (Candidate.notes o.strictMarkers) ++ (scopedRegistrations rs).flatMap
      (shadowNotes ((rootRegistrations rs).filterMap Registration.identified?)), .ok (rs, c)⟩ := by
  rw [compose, registrations_eq hregisters, ← hrs, Noted.bind_ok _ rfl, hc.ofRegistrations_eq hkeys,
    Noted.bind_ok _ rfl]
  simp

theorem compose_eq_ok : (compose o ds).outcome = .ok (rs, c) ↔
    (∀ x ∈ candidates ds, x.Registers o.strictMarkers) ∧
      rs = (candidates ds).filterMap (Candidate.registration? o.strictMarkers) ∧
      (rs.map (·.key.display)).Nodup ∧ c.MadeFrom o rs := by
  constructor
  · intro h
    obtain ⟨rs', hrs, h⟩ := Noted.outcome_bind_eq_ok.mp h
    obtain ⟨c', hc, h⟩ := Noted.outcome_bind_eq_ok.mp h
    obtain ⟨rfl, rfl⟩ := Prod.mk.inj (Except.ok.inj h)
    have hregisters := forall_registers_of_registrations hrs
    rw [registrations_eq hregisters] at hrs
    exact ⟨hregisters, (Except.ok.inj hrs).symm, Container.ofRegistrations_eq_ok_iff.mp hc⟩
  · rintro ⟨hregisters, hrs, hkeys, hc⟩
    rw [compose_eq hregisters hrs hkeys hc]

theorem compose_notes (h : (compose o ds).outcome = .ok (rs, c)) :
    (compose o ds).notes = (candidates ds).flatMap (Candidate.notes o.strictMarkers) ++ (scopedRegistrations rs).flatMap
      (shadowNotes ((rootRegistrations rs).filterMap Registration.identified?)) := by
  obtain ⟨hregisters, hrs, hkeys, hc⟩ := compose_eq_ok.mp h
  rw [compose_eq hregisters hrs hkeys hc]

/-- The registration of a declaration among others, if it has one. -/
def Declaration.registration? (o : Options) (ds : List Declaration) (d : Declaration) : Option Registration :=
  (Candidate.ofDeclaration? ds d).bind (Candidate.registration? o.strictMarkers)

theorem filterMap_candidates (o : Options) (ds : List Declaration) :
    (candidates ds).filterMap (Candidate.registration? o.strictMarkers) =
      ds.filterMap (Declaration.registration? o ds) :=
  List.filterMap_filterMap

section

variable (hnames : (ds.map Declaration.definitionName).Nodup) (hperm : ds.Perm ds')

include hnames hperm

theorem registration?_perm : Declaration.registration? o ds = Declaration.registration? o ds' := by
  funext d
  rw [Declaration.registration?, Declaration.registration?, ofDeclaration?_perm hnames hperm]

/-- Declarations in another order lead to a container too. -/
theorem compose_ok_of_perm (h : (compose o ds).outcome = .ok (rs, c)) :
    ∃ rs' c', (compose o ds').outcome = .ok (rs', c') := by
  obtain ⟨hregisters, rfl, hkeys, hc⟩ := compose_eq_ok.mp h
  -- Every condition of success is about the members of a list and not about their order.
  have hcandidates := candidates_perm hnames hperm
  have hrs := hcandidates.filterMap (Candidate.registration? o.strictMarkers)
  obtain ⟨c', hc'⟩ := hc.exists_of_perm hrs
  exact ⟨_, c', compose_eq_ok.mpr
    ⟨fun x hx => hregisters x (hcandidates.mem_iff.mpr hx), rfl, (hrs.map _).nodup_iff.mp hkeys, hc'⟩⟩

theorem compose_registrations_perm {rs' : List Registration} {c' : Container}
    (h : (compose o ds).outcome = .ok (rs, c)) (h' : (compose o ds').outcome = .ok (rs', c')) : rs.Perm rs' := by
  obtain ⟨-, rfl, -, -⟩ := compose_eq_ok.mp h
  obtain ⟨-, rfl, -, -⟩ := compose_eq_ok.mp h'
  exact (candidates_perm hnames hperm).filterMap _

theorem compose_notes_perm {rs' : List Registration} {c' : Container}
    (h : (compose o ds).outcome = .ok (rs, c)) (h' : (compose o ds').outcome = .ok (rs', c')) :
    (compose o ds).notes.Perm (compose o ds').notes := by
  have hrs := compose_registrations_perm hnames hperm h h'
  obtain ⟨-, -, -, hc⟩ := compose_eq_ok.mp h
  rw [compose_notes h, compose_notes h', shadowNotes_perm (rootRegistrations_perm hrs) hc.root.distinct]
  exact ((candidates_perm hnames hperm).flatMap_right _).append ((scopedRegistrations_perm hrs).flatMap_right _)

theorem generate_ok_of_perm {g : Generated} (h : generate o ds = .ok g) : ∃ g', generate o ds' = .ok g' := by
  obtain ⟨hvalid, rs, c, hcompose, -⟩ := generate_eq_ok.mp h
  obtain ⟨rs', c', hcompose'⟩ := compose_ok_of_perm hnames hperm hcompose
  exact ⟨_, generate_eq_ok.mpr ⟨hvalid, rs', c', hcompose', rfl⟩⟩

end

/-- Permuted declarations with different names generate a container or none, and the same one up to order: what is
registered for a declaration, what the providers have for a registration and what is noted are the same. -/
theorem generate_perm (o : Options) (hnames : (ds.map Declaration.definitionName).Nodup) (hperm : ds.Perm ds') :
    ((∃ g, generate o ds = .ok g) ↔ ∃ g', generate o ds' = .ok g') ∧
    ∀ g g', generate o ds = .ok g → generate o ds' = .ok g' →
      (∃ register : Declaration → Option Registration,
        g.registrations = ds.filterMap register ∧ g'.registrations = ds'.filterMap register) ∧
      g.registrations.Perm g'.registrations ∧
      g.report.moduleName = g'.report.moduleName ∧ g.report.services.Perm g'.report.services ∧
      g.diagnostics.Perm g'.diagnostics ∧
      ∃ c c', (compose o ds).outcome = .ok (g.registrations, c) ∧ g.module = c.moduleTrees ∧
        (compose o ds').outcome = .ok (g'.registrations, c') ∧ g'.module = c'.moduleTrees ∧
        c.MadeFrom o g.registrations ∧ c'.MadeFrom o g'.registrations ∧ c.Permuted c' := by
  -- The names are different in both orders, so either generation leads to the other.
  have hnames' : (ds'.map Declaration.definitionName).Nodup := (hperm.map _).nodup_iff.mp hnames
  have hsucceeds : (∃ g, generate o ds = .ok g) ↔ ∃ g', generate o ds' = .ok g' := by
    constructor
    · rintro ⟨g, hg⟩
      exact generate_ok_of_perm hnames hperm hg
    · rintro ⟨g', hg'⟩
      exact generate_ok_of_perm hnames' hperm.symm hg'
  refine ⟨hsucceeds, fun g g' hg hg' => ?_⟩
  obtain ⟨-, rs, c, hcompose, rfl⟩ := generate_eq_ok.mp hg
  obtain ⟨-, rs', c', hcompose', rfl⟩ := generate_eq_ok.mp hg'
  have hrs := compose_registrations_perm hnames hperm hcompose hcompose'
  obtain ⟨-, hregistered, -, hc⟩ := compose_eq_ok.mp hcompose
  obtain ⟨-, hregistered', -, hc'⟩ := compose_eq_ok.mp hcompose'
  -- What is registered for a declaration is the same among `ds` and among `ds'`.
  rw [filterMap_candidates] at hregistered hregistered'
  rw [← registration?_perm hnames hperm] at hregistered'
  exact ⟨⟨_, hregistered, hregistered'⟩, hrs, rfl, hrs.map _, compose_notes_perm hnames hperm hcompose hcompose',
    c, c', hcompose, rfl, hcompose', rfl, hc, hc', hc.permuted hrs hc'⟩

end

namespace Sample

/-- A type without fields that has markers of some lifetimes. -/
def declared (name : String) (lifetimes : List String) : Declaration where
  type := .ofName name
  kind := .struct
  withheld := false
  unit := true
  markers := lifetimes.map fun lifetime => ⟨some lifetime, none⟩

/-- A contract, a type that implements it, and types of other lifetimes. -/
def desk : List Declaration :=
  [{ declared "Alarm" ["singleton"] with kind := .trait, withheld := true },
   { declared "Bell" [] with contracts := [.ofName "Alarm"] },
   declared "Clock" ["singleton", "scoped"],
   { declared "Session" ["scoped"] with constructor := some ⟨"new", [⟨"bell", .ofName "Bell"⟩]⟩ }]

end Sample

theorem generate_perm_desk : ∃ g g', generate {} Sample.desk = .ok g ∧ generate {} Sample.desk.reverse = .ok g' ∧
    g.registrations.Perm g'.registrations ∧ g.diagnostics.Perm g'.diagnostics ∧
    ∃ c c' : Container, g.module = c.moduleTrees ∧ g'.module = c'.moduleTrees ∧ c.Permuted c' := by
  obtain ⟨g, hg⟩ : ∃ g, generate {} Sample.desk = .ok g := ⟨_, eq_ok_of_isSome (by decide +kernel)⟩
  have hnames : (Sample.desk.map Declaration.definitionName).Nodup := by decide +kernel
  have hperm := generate_perm {} hnames (List.reverse_perm Sample.desk).symm
  obtain ⟨g', hg'⟩ := hperm.1.mp ⟨g, hg⟩
  obtain ⟨-, hregistrations, -, -, hdiagnostics, c, c', -, hmodule, -, hmodule', -, -, hpermuted⟩ := hperm.2 g g' hg hg'
  exact ⟨g, g', hg, hg', hregistrations, hdiagnostics, c, c', hmodule, hmodule', hpermuted⟩

end ServiceContainer
