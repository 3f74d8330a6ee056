import ServiceContainer.Proofs.DeclarationOrder
import ServiceContainer.Proofs.Layout
import ServiceContainer.Proofs.MarkerKinds
import ServiceContainer.Proofs.WrittenTypes
import ServiceContainer.Sample.Assemblies

/-!
# Hygiene of generated modules

A container names types that were written elsewhere: keys, implementations, and the types of arguments. In the module
that is generated, `Self` is a provider, and four names are those of the types that the module defines. The generation
replaces `Self` in the types of parameters and refuses it as a key; it does not look for the four names. So a type in
the module means something else than where it was written only if it was written with `Self` or one of these names.

## Main definitions

* `Container.placed` — the types in a container
* `Container.IsHygienic` — no type in the container has `Self` in it, or is one of the types of the module
* `Source.Warrants`, `Source.IsClean` — what a source says of the types in its container

## Main statements

* `Container.exists_registration_of_placed` — the types in a container are those of its registrations
* `Container.placed_as_written` — the types in the container of a source
-/

namespace ServiceContainer

open Syntax (Tree Item Read Lexeme)

/-! ### The types in a container -/

/-- The types that an argument names. -/
def Argument.placed : Argument → List (Place × TypeExpr)
  | .shared key | .cloned key => [(.argument, key)]
  | .provider => []

/-- The types that a construct names. -/
def Construct.placed : Construct → List (Place × TypeExpr)
  | .factory type _ | .unitLiteral type | .default type => [(.implementation, type)]
  | .constructor type _ arguments => (.implementation, type) :: arguments.flatMap Argument.placed

/-- The types that the body of an accessor names. -/
def Body.placed : Body → List (Place × TypeExpr)
  | .memoized _ type construct | .fresh type construct => (.implementation, type) :: construct.placed

/-- The types that an accessor names. -/
def Accessor.placed (a : Accessor) : List (Place × TypeExpr) := (.key, a.key) :: a.body.placed

/-- The types that a provider names, in its cells, its accessors and its lookups. -/
def Provider.placed (p : Provider) : List (Place × TypeExpr) :=
  p.cells.map (fun cell => (.implementation, cell.implementation)) ++ p.accessors.flatMap Accessor.placed
    ++ p.lookups.map (fun l => (.key, l.key))

/-- The types that a container names. -/
def Container.placed (c : Container) : List (Place × TypeExpr) := c.rootProvider.placed ++ c.scopedProvider.placed

/-- The names of the types that the module of a container defines. -/
def Container.typeNames (c : Container) : List String :=
  [c.rootProvider.name, c.rootProvider.stateType, c.scopedProvider.name, c.scopedProvider.stateType]

/-- The type has no word `Self` in it, and no path of one segment is one of the names. -/
def TypeExpr.IsHygienic (names : List String) (t : TypeExpr) : Prop :=
  .token (.ident "Self") ∉ t.tree.lexemes ∧ ∀ name ∈ t.tree.pathNames, name ∉ names

instance (names : List String) : DecidablePred (TypeExpr.IsHygienic names) := fun _ => instDecidableAnd

/-- No type in the module of the container means something else there than where it was written. -/
def Container.IsHygienic (c : Container) : Prop := ∀ x ∈ c.placed, x.2.IsHygienic c.typeNames

instance : DecidablePred Container.IsHygienic := fun c => inferInstanceAs (Decidable (∀ x ∈ c.placed, _))

/-! ### The types of registrations -/

/-- The types that a registration names. -/
def Registration.placed (r : Registration) : List (Place × TypeExpr) :=
  (.key, r.key) :: (.implementation, r.implementation) :: match r.construction with
    | .constructor _ arguments => arguments.flatMap Argument.placed
    | .factory _ | .unitLiteral | .default => []

section

variable {r : Registration} {rs : List Registration} {o : Options} {c : Container} {x : Place × TypeExpr}

theorem Registration.key_mem_placed (r : Registration) : (.key, r.key) ∈ r.placed := List.mem_cons_self

theorem Registration.implementation_mem_placed (r : Registration) : (.implementation, r.implementation) ∈ r.placed :=
  List.mem_cons_of_mem _ List.mem_cons_self

theorem Construct.Makes.mem_placed {construct : Construct} (h : construct.Makes r) (hx : x ∈ construct.placed) :
    x ∈ r.placed := by
  cases h with
  | factory | unitLiteral | default =>
    rw [List.mem_singleton.mp hx]
    exact r.implementation_mem_placed
  | constructor way named =>
    rcases List.mem_cons.mp hx with rfl | hx
    · exact r.implementation_mem_placed
    · rw [Registration.placed, way]
      exact List.mem_cons_of_mem _ (List.mem_cons_of_mem _ hx)

/-- The types of an accessor are those of the registration that it delivers. -/
theorem Accessor.mem_placed {a : Accessor} (h : r.accessor = .ok a) (hx : x ∈ a.placed) : x ∈ r.placed := by
  obtain ⟨id, -, h⟩ := bind_eq_ok.mp h
  obtain ⟨name, -, h⟩ := bind_eq_ok.mp h
  obtain ⟨construct, hconstruct, h⟩ := bind_eq_ok.mp h
  have hmakes := Construct.makes_of_ofRegistration hconstruct
  have hbody : x = (.key, r.key) ∨ x = (.implementation, r.implementation) ∨ x ∈ construct.placed := by
    split at h
    · obtain ⟨cell, -, h⟩ := bind_eq_ok.mp h
      cases h
      simpa [Accessor.placed, Body.placed] using hx
    · cases h
      simpa [Accessor.placed, Body.placed] using hx
  rcases hbody with rfl | rfl | hx
  · exact r.key_mem_placed
  · exact r.implementation_mem_placed
  · exact hmakes.mem_placed hx

/-- Cells and lookups name no types besides those of the accessors. -/
theorem Provider.MadeFrom.exists_accessor {kind : ProviderKind} {text : String} {p : Provider}
    (h : p.MadeFrom kind text rs) (hx : x ∈ p.placed) : ∃ a ∈ p.accessors, x ∈ a.placed := by
  rw [Provider.placed, h.cells, h.lookups] at hx
  simp only [List.mem_append, List.mem_map, List.mem_filterMap, List.mem_flatMap] at hx
  rcases hx with (⟨cell, ⟨a, ha, hcell⟩, rfl⟩ | hx) | ⟨l, ⟨a, ha, rfl⟩, rfl⟩
  · refine ⟨a, ha, ?_⟩
    unfold Accessor.cell? at hcell
    split at hcell
    next hbody =>
      cases hcell
      simp [Accessor.placed, Body.placed, hbody]
    next => cases hcell
  · exact hx
  · exact ⟨a, ha, List.mem_cons_self⟩

theorem Provider.MadeFrom.exists_registration {kind : ProviderKind} {text : String} {p : Provider}
    (h : p.MadeFrom kind text rs) (hx : x ∈ p.placed) : ∃ r ∈ rs, x ∈ r.placed := by
  obtain ⟨a, ha, hx⟩ := h.exists_accessor hx
  rw [h.accessors] at ha
  obtain ⟨r, hr, hr'⟩ := List.mem_filterMap.mp ha
  refine ⟨r, hr, Accessor.mem_placed ?_ hx⟩
  obtain ⟨b, hb⟩ := h.accessible r hr
  rw [Registration.accessor?_eq_some hb] at hr'
  rw [hb, Option.some.inj hr']

/-- The types in a container are those of its registrations. -/
theorem Container.exists_registration_of_placed (h : c.MadeFrom o rs) (hx : x ∈ c.placed) :
    ∃ r ∈ rs, x ∈ r.placed := by
  rcases List.mem_append.mp hx with hx | hx
  · obtain ⟨r, hr, hx⟩ := h.root.exists_registration hx
    exact ⟨r, List.mem_of_mem_filter hr, hx⟩
  · obtain ⟨r, hr, hx⟩ := h.nested.exists_registration hx
    exact ⟨r, List.mem_of_mem_filter hr, hx⟩

end

/-! ### The types of a source -/

/-- The source warrants a type that a container names at a place: it says itself what the type could be misread by. -/
structure Source.Warrants (s : Source) (p : Place) (t : TypeExpr) : Prop where
  /-- A path of one segment in the type is one of a type that the source writes. -/
  names : ∀ name ∈ t.tree.pathNames, ∃ q w, s.Writes q w ∧ name ∈ w.tree.pathNames
  key : p = .key → t.tree.isBareSelf = false
  /-- A type `Self` in it is in the name of a declared type that the source writes, or in a key. -/
  selfType : t.tree.hasSelfType = true →
    ∃ q w, s.Writes q w ∧ w.tree.hasSelfType = true ∧ (q = .implementation ∨ q = .key ∧ p = .key)
  selfPath : t.tree.hasSelfPath = true → ∃ q w, s.Writes q w ∧ w.tree.hasSelfPath = true

/-- The source writes none of the names as a path of one segment, and `Self` only as a type for parameters. -/
structure Source.IsClean (s : Source) (names : List String) : Prop where
  names : ∀ q t, s.Writes q t → ∀ name ∈ t.tree.pathNames, name ∉ names
  selfType : ∀ q t, s.Writes q t → q ≠ .argument → t.tree.hasSelfType = false
  selfPath : ∀ q t, s.Writes q t → t.tree.hasSelfPath = false

section

variable {s : Source} {ds : List Declaration} {d : Declaration} {p : Place} {t : TypeExpr}

/-- A type as the source writes it is warranted, where it is no argument's. -/
theorem Source.Writes.warrants {q : Place} (h : s.Writes q t) (hq : q = .implementation ∨ q = .key ∧ p = .key)
    (hkey : p = .key → t.tree.isBareSelf = false) : s.Warrants p t where
  names _ hname := ⟨q, t, h, hname⟩
  key := hkey
  selfType hself := ⟨q, t, h, hself, hq⟩
  selfPath hself := ⟨q, t, h, hself⟩

/-- What is found in the type of a parameter once `Self` is replaced is warranted as an argument. -/
theorem Source.Writes.warrants_argument {w : TypeExpr} (h : s.Writes .argument w) (hd : d.WrittenIn s)
    (ht : t.tree ∈ ((w.replaceSelf d.type).replaceSelf d.type).tree.pieces) : s.Warrants .argument t where
  names name hname := by
    -- A name in the type comes with the declared type, in either replacement, or is written for the parameter.
    rcases Tree.mem_pathNames_replaceSelf hd.isType (Tree.mem_pathNames_of_mem ht hname) with hname | hname
    · exact ⟨_, _, hd.type, hname⟩
    · rcases Tree.mem_pathNames_replaceSelf hd.isType hname with hname | hname
      · exact ⟨_, _, hd.type, hname⟩
      · exact ⟨_, _, h, hname⟩
  key hp := nomatch hp
  selfType hself :=
    ⟨_, _, hd.type, Tree.hasSelfType_replaceSelf hd.isType (Tree.hasSelfType_of_mem ht hself), .inl rfl⟩
  selfPath hself := by
    rcases Tree.hasSelfPath_replaceSelf hd.isType (Tree.hasSelfPath_of_mem ht hself) with hself | hself
    · exact ⟨_, _, hd.type, hself⟩
    · rcases Tree.hasSelfPath_replaceSelf hd.isType hself with hself | hself
      · exact ⟨_, _, hd.type, hself⟩
      · exact ⟨_, _, h, hself⟩

/-- A type that passes the check of keys is not `Self`. -/
theorem isBareSelf_of_keyFault? (h : keyFault? t = none) : t.tree.isBareSelf = false := by
  refine Bool.eq_false_iff.mpr fun hself => ?_
  obtain ⟨tree⟩ := t
  obtain rfl : tree = _ := Tree.isBareSelf_iff.mp hself
  revert h
  decide

/-- Every marker that applies to a declaration is a marker of some declaration. -/
theorem exists_declaration_of_markerSources {source : MarkerSource} (hd : d ∈ ds) (h : source ∈ markerSources ds d) :
    ∃ d' ∈ ds, source.marker ∈ d'.markers := by
  obtain ⟨d', hstands⟩ := mem_markerSources.mp h
  exact ⟨d', hstands.mem hd, hstands.marker_mem⟩

/-- The type of an argument is a piece of the parameter's once `Self` is replaced. -/
theorem Argument.mem_pieces_of_ofParameter {q : Parameter} {a : Argument} (h : Argument.ofParameter d q = .ok a)
    {x : Place × TypeExpr} (hx : x ∈ a.placed) :
    x.1 = .argument ∧ x.2.tree ∈ (q.type.replaceSelf d.type).tree.pieces := by
  unfold Argument.ofParameter at h
  dsimp only at h
  split at h
  · cases h
    cases hx
  · split at h
    · cases h
    · split at h
      next key hshared =>
        cases h
        rw [List.mem_singleton.mp hx]
        exact ⟨rfl, mem_pieces_of_sharedKey? hshared⟩
      next =>
        cases h
        rw [List.mem_singleton.mp hx]
        exact ⟨rfl, Tree.mem_pieces_self _⟩

variable (hwritten : ∀ d ∈ ds, d.WrittenIn s) (hd : d ∈ ds)

include hwritten hd

/-- Every type of a registration is warranted. -/
theorem Declaration.RegisteredAs.warrants {strict : Bool} {source : MarkerSource} {others : List MarkerSource}
    {r : Registration} (h : d.RegisteredAs strict source others r) (hsource : source ∈ markerSources ds d)
    {x : Place × TypeExpr} (hx : x ∈ r.placed) : s.Warrants x.1 x.2 := by
  have hdeclared := hwritten d hd
  rcases List.mem_cons.mp hx with rfl | hx
  · -- The key is the one of the deciding marker, whoever has that marker, or the declared type.
    have hkey : r.key.tree.isBareSelf = false := isBareSelf_of_keyFault? (h.key ▸ h.valid)
    cases hmarker : source.marker.key with
    | none =>
      have heq : r.key = d.type := by rw [h.key, Declaration.keyFrom, hmarker, Option.getD_none]
      exact (heq ▸ hdeclared.type).warrants (.inl rfl) fun _ => hkey
    | some key =>
      have heq : r.key = key := by rw [h.key, Declaration.keyFrom, hmarker, Option.getD_some]
      obtain ⟨d', hd', hmem⟩ := exists_declaration_of_markerSources hd hsource
      exact (heq ▸ (hwritten d' hd').markers _ hmem _ hmarker).warrants (.inr ⟨rfl, rfl⟩) fun _ => hkey
  rcases List.mem_cons.mp hx with rfl | hx
  · exact (h.implementation ▸ hdeclared.type).warrants (.inl rfl) nofun
  · have hway := h.construction
    split at hx
    next function arguments hconstruction =>
      rw [hconstruction] at hway
      obtain ⟨a, ha, hx⟩ := List.mem_flatMap.mp hx
      cases hway with
      | constructor _ declared supplied =>
        obtain ⟨q, hq, hsupplied⟩ := exists_rel_of_mem_right supplied ha
        obtain ⟨hplace, hpiece⟩ := Argument.mem_pieces_of_ofParameter hsupplied hx
        obtain ⟨w, hw, htype⟩ := hdeclared.parameters _ declared q hq
        rw [htype] at hpiece
        rw [hplace]
        exact hw.warrants_argument hdeclared hpiece
    all_goals exact nomatch hx

end

section

variable {s : Source} {ds : List Declaration} {o : Options} {rs : List Registration} {c : Container}

/-- Every registration is that of a declaration, by the first marker that applies. -/
theorem exists_registeredAs_of_compose (h : (compose o ds).outcome = .ok (rs, c)) {r : Registration} (hr : r ∈ rs) :
    ∃ d ∈ ds, ∃ source ∈ markerSources ds d, ∃ others, d.RegisteredAs o.strictMarkers source others r := by
  obtain ⟨rs', hrs, h⟩ := Noted.outcome_bind_eq_ok.mp h
  obtain ⟨c', -, h⟩ := Noted.outcome_bind_eq_ok.mp h
  obtain ⟨rfl, rfl⟩ := Prod.mk.inj (Except.ok.inj h)
  obtain ⟨candidate, hcandidate, hregistered⟩ := exists_rel_of_mem_right (registrations_eq_ok.mp hrs) hr
  obtain ⟨d, hd, hsome⟩ := List.mem_filterMap.mp hcandidate
  obtain ⟨rfl, hmarked⟩ := ofDeclaration?_eq_some hsome
  exact ⟨_, hd, _, markedBy_iff.mp hmarked ▸ List.mem_cons_self, _, hregistered⟩

theorem Source.Declares.warrants (hs : s.Declares ds) (h : (compose o ds).outcome = .ok (rs, c))
    {x : Place × TypeExpr} (hx : x ∈ c.placed) : s.Warrants x.1 x.2 := by
  obtain ⟨-, -, -, hmade⟩ := compose_eq_ok.mp h
  obtain ⟨r, hr, hx⟩ := Container.exists_registration_of_placed hmade hx
  obtain ⟨d, hd, source, hsource, others, hregistered⟩ := exists_registeredAs_of_compose h hr
  exact hregistered.warrants hs.writtenIn hd hsource hx

theorem Source.Warrants.isHygienic {p : Place} {t : TypeExpr} {names : List String} (h : s.Warrants p t)
    (hs : s.IsClean names) : t.IsHygienic names := by
  refine ⟨fun hself => ?_, fun name hname => ?_⟩
  · rcases (Tree.self_mem_lexemes_iff _).mp hself with hself | hself
    · obtain ⟨q, w, hw, hw', hq⟩ := h.selfType hself
      have hplace : q ≠ .argument := by
        rintro rfl
        simp at hq
      rw [hs.selfType q w hw hplace] at hw'
      cases hw'
    · obtain ⟨q, w, hw, hw'⟩ := h.selfPath hself
      rw [hs.selfPath q w hw] at hw'
      cases hw'
  · obtain ⟨q, w, hw, hw'⟩ := h.names name hname
    exact hs.names q w hw name hw'

/-- The name of a definition in a module that was read is not `Self`, and so no type of such a module is. -/
theorem Source.Writes.hasSelfType_eq_false {items : List Item} {t : TypeExpr} (hread : Read items)
    (h : Writes (.module items) .implementation t) : t.tree.hasSelfType = false := by
  cases h with
  | @definition _ definition hd =>
    have hname : definition.name ≠ "Self" := fun heq => Syntax.not_reserved_of_read hread hd (heq ▸ by decide)
    simp [Tree.hasSelfType, TypeExpr.ofName, Tree.pieces, Syntax.pieces, Tree.isBareSelf, Tree.ident, hname]

/-- **Where the types of a generated module come from.** Every type in the container has its paths of one segment from
the types that the source writes. No key is `Self`; elsewhere the type `Self` is left in a type only where the name of a
declared type or a key has it, and in a module only in keys. So nothing is misread in the module of a source that has
none of the four names and writes `Self` only for parameters. -/
theorem Container.placed_as_written (hs : s.Declares ds) (h : (compose o ds).outcome = .ok (rs, c)) :
    (∀ x ∈ c.placed, s.Warrants x.1 x.2) ∧
    (∀ items, s = .module items → ∀ x ∈ c.placed, x.1 ≠ .key → x.2.tree.hasSelfType = false) ∧
    (s.IsClean c.typeNames → c.IsHygienic) := by
  refine ⟨fun x hx => hs.warrants h hx, ?_, fun hclean x hx => (hs.warrants h hx).isHygienic hclean⟩
  rintro items rfl x hx hplace
  refine Bool.eq_false_iff.mpr fun hself => ?_
  obtain ⟨q, w, hw, hw', rfl | ⟨-, hkey⟩⟩ := (hs.warrants h hx).selfType hself
  · rw [hw.hasSelfType_eq_false hs.1] at hw'
    cases hw'
  · exact hplace hkey

theorem Manifest.exists_of_container? {m : Manifest} (h : m.container? = some c) :
    ∃ ds rs, (Source.manifest m).Declares ds ∧ (compose m.options ds).outcome = .ok (rs, c) := by
  obtain ⟨ds, hds, h⟩ := Option.bind_eq_some_iff.mp h
  obtain ⟨⟨rs, c'⟩, hc, h⟩ := Option.bind_eq_some_iff.mp h
  cases h
  exact ⟨ds, rs, toOption_eq_some.mp hds, toOption_eq_some.mp hc⟩

/-- A type with the name of the root provider. -/
def Sample.namesake : Manifest where
  types := [{ name := "ServiceProvider", unit := true, markers := [{ lifetime := some "singleton" }] }]

/-- A declared type with the name of a provider is taken for the provider in the module. -/
theorem Container.not_isHygienic : ¬ ∀ (s : Source) (o : Options) (ds : List Declaration) (rs : List Registration)
    (c : Container), s.Declares ds → o.validate = .ok () → (compose o ds).outcome = .ok (rs, c) → c.IsHygienic := by
  intro hclaim
  have hsample : Sample.namesake.container?.any (fun c => !decide c.IsHygienic) = true := by decide +kernel
  obtain ⟨c, hc, hnot⟩ := (Option.any_eq_true _ _).mp hsample
  obtain ⟨ds, rs, hdeclares, hcompose⟩ := Manifest.exists_of_container? hc
  simp [hclaim _ _ ds rs c hdeclares (by decide +kernel) hcompose] at hnot

/-- A clock, and a storage that is made from a clock and other storages. -/
def Sample.storage : Manifest where
  types :=
    [{ name := "Clock", unit := true, markers := [{ lifetime := some "singleton" }] },
     { name := "Shelf", markers := [{ lifetime := some "transient", key := some "dyn Storage" }],
       constructor := some { parameters := ["Rc<Clock>", "Vec<Self>"] } }]

/-- The types that texts are. -/
def readTypes (texts : List String) : List TypeExpr := texts.filterMap fun text => (TypeExpr.ofText text).toOption

/-- The types that a manifest writes. -/
def Manifest.writtenTypes (m : Manifest) : List (Place × TypeExpr) :=
  (readTypes (m.types.map (·.name))).map (.implementation, ·)
    ++ (readTypes (m.types.flatMap fun e => e.markers.filterMap (·.key))).map (.key, ·)
    ++ (readTypes (m.types.flatMap fun e => (e.constructor.map (·.parameters)).getD [])).map (.argument, ·)

theorem mem_readTypes {texts : List String} {text : String} {t : TypeExpr} (hmem : text ∈ texts) (h : IsText text t) :
    t ∈ readTypes texts :=
  List.mem_filterMap.mpr ⟨text, hmem, toOption_eq_some.mpr h⟩

theorem Source.Writes.mem_writtenTypes {m : Manifest} {p : Place} {t : TypeExpr}
    (h : Source.Writes (.manifest m) p t) : (p, t) ∈ m.writtenTypes := by
  simp only [Manifest.writtenTypes, List.mem_append, List.mem_map, Prod.mk.injEq]
  cases h with
  | entry he ht => exact .inl (.inl ⟨t, mem_readTypes (List.mem_map_of_mem he) ht, rfl, rfl⟩)
  | entryKey he hk htext ht =>
    refine .inl (.inr ⟨t, mem_readTypes ?_ ht, rfl, rfl⟩)
    exact List.mem_flatMap.mpr ⟨_, he, List.mem_filterMap.mpr ⟨_, hk, htext⟩⟩
  | entryParameter he hc htext ht =>
    refine .inr ⟨t, mem_readTypes ?_ ht, rfl, rfl⟩
    exact List.mem_flatMap.mpr ⟨_, he, by rwa [hc]⟩

theorem Container.placed_as_written_storage : ∃ ds rs c, (Source.manifest Sample.storage).Declares ds ∧
    (compose {} ds).outcome = .ok (rs, c) ∧ (Source.manifest Sample.storage).IsClean c.typeNames ∧ c.IsHygienic := by
  have hsample : Sample.storage.container?.any (fun c => c.typeNames ==
      ["ServiceProvider", "ServiceProviderState", "ScopedServiceProvider", "ScopedServiceProviderState"]) = true := by
    decide +kernel
  obtain ⟨c, hc, hnames⟩ := (Option.any_eq_true _ _).mp hsample
  obtain ⟨ds, rs, hdeclares, hcompose⟩ := Manifest.exists_of_container? hc
  have hclean : (Source.manifest Sample.storage).IsClean c.typeNames := by
    rw [beq_iff_eq.mp hnames]
    constructor
    · intro q t ht
      have hall : ∀ x ∈ Sample.storage.writtenTypes, ∀ name ∈ x.2.tree.pathNames, name ∉
        ["ServiceProvider", "ServiceProviderState", "ScopedServiceProvider", "ScopedServiceProviderState"] := by
        decide +kernel
      exact hall _ ht.mem_writtenTypes
    · intro q t ht
      have hall : ∀ x ∈ Sample.storage.writtenTypes, x.1 ≠ .argument → x.2.tree.hasSelfType = false := by
        decide +kernel
      exact hall _ ht.mem_writtenTypes
    · intro q t ht
      have hall : ∀ x ∈ Sample.storage.writtenTypes, x.2.tree.hasSelfPath = false := by
        decide +kernel
      exact hall _ ht.mem_writtenTypes
  exact ⟨ds, rs, c, hdeclares, hcompose, hclean, (Container.placed_as_written hdeclares hcompose).2.2 hclean⟩

end

end ServiceContainer
