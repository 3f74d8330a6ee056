import ServiceContainer.Proofs.DeclarationOrder
import ServiceContainer.Proofs.Layout

/-!
# What a generation notes

The findings of a generation, described without the passes that note them. About each declaration that is registered
there is a warning when its sources disagree, and then a note for each method that is marked as a factory and passed
over. About each scoped service there is a warning when a service of the root provider has its identifier; no two
services of that provider have it, so the warning names the only one.

## Main definitions

* `Declaration.WarnsOf`, `Declaration.PassesOver` — the findings about a declaration
* `Registration.Shadows` — the findings about a scoped service

## Main statements

* `notes_ofCandidate` — the findings about one declaration
* `shadows_shadowNotes` — the findings about one scoped service
* `diagnostics_exact` — all findings of a generation, in their order
-/

namespace ServiceContainer

/-! ### Findings about a declaration -/

/-- The sources ask for one lifetime and one key, as written. -/
def Unanimous (ss : List MarkerSource) : Prop := ∀ s ∈ ss, ∀ t ∈ ss, s.marker.Agrees t.marker

/-- The method is static and marked as a factory. -/
def Method.isMarked (m : Method) : Bool := m.isStatic && m.isFactory

namespace Declaration

/-- What is warned of a declaration with these sources. -/
inductive WarnsOf (d : Declaration) (ss : List MarkerSource) : List Diagnostic → Prop where
  | unanimous (agree : Unanimous ss) : WarnsOf d ss []
  | conflict (disagree : ¬ Unanimous ss) :
    WarnsOf d ss [⟨.warning, d.type.display,
      "存在相互冲突的服务标记，采用第一条: " ++ String.intercalate ", " (ss.map MarkerSource.text)⟩]

/-- The notes about the methods among some that are marked as factories. -/
def notesAbout (d : Declaration) (ms : List Method) : List Diagnostic :=
  (ms.filter Method.isMarked).map (ignoredFactory d)

/-- What is noted about the methods of a declaration: those that are marked and stand before its factory are passed
over, all of them where it has none. -/
inductive PassesOver (d : Declaration) : List Diagnostic → Prop where
  | chosen {before after : List Method} {m : Method} (methods : d.methods = before ++ m :: after)
    (factory : d.IsFactory m) (first : ∀ b ∈ before, ¬ d.IsFactory b) : PassesOver d (d.notesAbout before)
  | none (noFactory : d.HasNoFactory) : PassesOver d (d.notesAbout d.methods)

/-- The findings about a registered declaration. -/
def Finds (ds : List Declaration) (d : Declaration) (findings : List Diagnostic) : Prop :=
  ∃ ss conflicts passedOver, d.MarkedBy ds ss ∧ d.WarnsOf ss conflicts ∧ d.PassesOver passedOver ∧
    findings = conflicts ++ passedOver

end Declaration

/-! ### Findings about a scoped service -/

/-- The registration has the service identifier. -/
def Registration.IsIdentifiedBy (r : Registration) (id : String) : Prop := serviceIdentifier r.key = .ok id

/-- What is warned of a scoped registration beside those of the root provider: that it shadows the one of them that has
its identifier. -/
inductive Registration.Shadows (inRoot : List Registration) (r : Registration) : List Diagnostic → Prop where
  | alone {id : String} (identified : r.IsIdentifiedBy id) (noOther : ∀ q ∈ inRoot, ¬ q.IsIdentifiedBy id) :
    Shadows inRoot r []
  | shadows {id : String} {before after : List Registration} {q : Registration} (identified : r.IsIdentifiedBy id)
    (split : inRoot = before ++ q :: after) (same : q.IsIdentifiedBy id)
    (only : ∀ p ∈ before ++ after, ¬ p.IsIdentifiedBy id) : Shadows inRoot r [shadowWarning id r q]

/-! ### One declaration -/

theorem Marker.Agrees.symm {m n : Marker} (h : m.Agrees n) : n.Agrees m := ⟨h.1.symm, h.2.symm⟩

theorem Marker.Agrees.trans {m n k : Marker} (h : m.Agrees n) (h' : n.Agrees k) : m.Agrees k :=
  ⟨h.1.trans h'.1, h.2.trans h'.2⟩

/-- Sources agree with each other when they agree with the first. -/
theorem unanimous_cons {s : MarkerSource} {others : List MarkerSource} :
    Unanimous (s :: others) ↔ ∀ o ∈ others, o.marker.Agrees s.marker := by
  constructor
  · intro h o ho
    exact h o (List.mem_cons_of_mem s ho) s List.mem_cons_self
  · intro h
    have hfirst : ∀ t ∈ s :: others, t.marker.Agrees s.marker :=
      List.forall_mem_cons.mpr ⟨⟨rfl, rfl⟩, h⟩
    intro t ht u hu
    exact (hfirst t ht).trans (hfirst u hu).symm

section

variable {d : Declaration} {strict : Bool} {c : Candidate} {r : Registration}

theorem hasConflict_iff : c.hasConflict = true ↔ ¬ Unanimous c.sources := by
  rw [Candidate.sources, unanimous_cons, Candidate.hasConflict, List.any_eq_true]
  simp only [disagree_iff]
  push Not
  rfl

/-- The notes of choosing a factory are about the methods before the chosen one. -/
theorem notes_chooseFactory (d : Declaration) (ms : List Method) :
    (chooseFactory d ms).notes = (ms.takeWhile (!hasFactoryShape d ·)).map (ignoredFactory d) := by
  induction ms with
  | nil => rfl
  | cons m rest ih =>
    rw [chooseFactory, List.takeWhile_cons]
    by_cases hshape : hasFactoryShape d m = true
    · simp [hshape]
    · rw [if_neg hshape, Noted.bind_ok _ (Noted.tell_outcome _), ih]
      simp [hshape, Noted.tell]

theorem not_isFactory_of_isMarked {m : Method} (hmarked : m.isMarked = true) :
    ¬ d.IsFactory m ↔ (!hasFactoryShape d m) = true := by
  rw [Method.isMarked] at hmarked
  rw [← isFactory_iff, hmarked, Bool.true_and, Bool.not_eq_true, Bool.not_eq_true']

theorem factoryMethods_eq (d : Declaration) : factoryMethods d = d.methods.filter Method.isMarked := by
  rw [factoryMethods, Declaration.staticMethods, List.filter_filter]
  congr 1
  funext m
  exact Bool.and_comm ..

/-- The marked methods before the first with the shape of a factory are passed over. -/
theorem passesOver_chooseFactory (d : Declaration) : d.PassesOver (chooseFactory d (factoryMethods d)).notes := by
  have hpassed {ms : List Method} (hms : ∀ m ∈ ms, ¬ d.IsFactory m) :
      ∀ m ∈ ms.filter Method.isMarked, (!hasFactoryShape d m) = true := by
    intro m hm
    obtain ⟨hmem, hmarked⟩ := List.mem_filter.mp hm
    exact (not_isFactory_of_isMarked hmarked).mp (hms m hmem)
  rw [notes_chooseFactory, factoryMethods_eq]
  cases hfactory : (factoryMethods d).find? (hasFactoryShape d) with
  | some m =>
    obtain ⟨before, after, hmethods, hm, hbefore⟩ := find?_factoryMethods_eq_some.mp hfactory
    have hshape : hasFactoryShape d m = true := List.find?_some hfactory
    have hmarked : m.isMarked = true := by rw [Method.isMarked, hm.isStatic, hm.marked, Bool.true_and]
    rw [hmethods, List.filter_append, List.filter_cons_of_pos hmarked,
      List.takeWhile_append_of_pos (hpassed hbefore), List.takeWhile_cons_of_neg (by simp [hshape]), List.append_nil]
    exact .chosen hmethods hm hbefore
  | none =>
    have hnone := find?_factoryMethods_eq_none.mp hfactory
    rw [List.takeWhile_eq_self_iff.mpr (hpassed hnone)]
    exact .none hnone

theorem notes_construction (d : Declaration) :
    (Construction.ofDeclaration d).notes = (chooseFactory d (factoryMethods d)).notes := by
  rw [Construction.ofDeclaration, Noted.bind_ok _ (chooseFactory_outcome d _)]
  dsimp only
  split
  · simp
  · split
    next c hc =>
      -- A parameter that cannot be supplied ends the generation and is not noted.
      cases hsupplied : (Noted.ofExcept (c.parameters.mapM (Argument.ofParameter d))).outcome with
      | ok arguments => rw [Noted.bind_ok _ hsupplied]; simp [Noted.ofExcept]
      | error e => rw [Noted.bind_error _ hsupplied]; simp [Noted.ofExcept]
    · simp

theorem warnsOf_checkConflict (h : (c.checkConflict strict).outcome = .ok ()) :
    c.declaration.WarnsOf c.sources (c.checkConflict strict).notes := by
  rw [Candidate.checkConflict] at h ⊢
  by_cases hconflict : c.hasConflict = true
  · rw [if_pos hconflict] at h ⊢
    cases strict with
    | true => cases h
    | false => exact .conflict (hasConflict_iff.mp hconflict)
  · rw [if_neg hconflict]
    exact .unanimous (Classical.not_not.mp fun hnot => hconflict (hasConflict_iff.mpr hnot))

/-- The findings about a candidate that is registered are those about its conflict and its factory methods. -/
theorem notes_ofCandidate (h : (Registration.ofCandidate strict c).outcome = .ok r) :
    (Registration.ofCandidate strict c).notes =
      (c.checkConflict strict).notes ++ (chooseFactory c.declaration (factoryMethods c.declaration)).notes := by
  obtain ⟨l, hl, h⟩ := Noted.outcome_bind_eq_ok.mp h
  obtain ⟨⟨⟩, hconflict, h⟩ := Noted.outcome_bind_eq_ok.mp h
  obtain ⟨⟨⟩, hkey, h⟩ := Noted.outcome_bind_eq_ok.mp h
  obtain ⟨k, hk, -⟩ := Noted.outcome_bind_eq_ok.mp h
  rw [Registration.ofCandidate, Noted.bind_ok _ hl, Noted.bind_ok _ hconflict, Noted.bind_ok _ hkey,
    Noted.bind_ok _ hk, notes_construction]
  simp [Noted.ofExcept]

theorem finds_of_registers {ds : List Declaration} (hc : Candidate.ofDeclaration? ds d = some c)
    (h : c.Registers strict) : d.Finds ds (c.notes strict) := by
  obtain ⟨r, hr⟩ := h
  obtain ⟨rfl, hmarked⟩ := ofDeclaration?_eq_some hc
  have hconflict := checkConflict_eq_ok.mpr (ofCandidate_eq_ok.mp hr).tolerated
  exact ⟨_, _, _, hmarked, warnsOf_checkConflict hconflict, passesOver_chooseFactory _, notes_ofCandidate hr⟩

end

/-- What holds of the candidates one by one holds of the registrable declarations, if it follows for each. -/
theorem forall₂_registrable {β : Type} {ds : List Declaration} {R : Declaration → β → Prop} {S : Candidate → β → Prop}
    (himp : ∀ d c y, Candidate.ofDeclaration? ds d = some c → S c y → R d y) {ys : List β}
    (h : List.Forall₂ S (candidates ds) ys) : List.Forall₂ R (ds.filter (Declaration.IsRegistrable ds)) ys := by
  -- Names are looked up among all declarations, so `ds` stays fixed while the induction runs over those to register.
  suffices hall : ∀ es : List Declaration, ∀ ys, List.Forall₂ S (es.filterMap (Candidate.ofDeclaration? ds)) ys →
      List.Forall₂ R (es.filter (Declaration.IsRegistrable ds)) ys from hall ds ys h
  intro es
  induction es with
  | nil => exact fun ys hys => by cases hys; exact .nil
  | cons d es ih =>
    intro ys hys
    rcases filterMap_candidates_cons ds d es with ⟨c, hc, hmap, hfilter⟩ | ⟨hmap, hfilter⟩
    · rw [hmap] at hys
      rw [hfilter]
      obtain _ | ⟨hy, hrest⟩ := hys
      exact .cons (himp d c _ hc hy) (ih _ hrest)
    · rw [hmap] at hys
      rw [hfilter]
      exact ih ys hys

/-- The findings about candidates are those about the registrable declarations, in their order. -/
theorem forall₂_finds {ds : List Declaration} {strict : Bool} (h : ∀ c ∈ candidates ds, c.Registers strict) :
    List.Forall₂ (Declaration.Finds ds) (ds.filter (Declaration.IsRegistrable ds))
      ((candidates ds).map (Candidate.notes strict)) := by
  apply forall₂_registrable (S := fun c notes => c.Registers strict ∧ notes = c.notes strict)
  · rintro d c _ hc ⟨hregisters, rfl⟩
    exact finds_of_registers hc hregisters
  · rw [List.forall₂_map_right_iff, List.forall₂_same]
    exact fun c hc => ⟨h c hc, rfl⟩

/-- A generation registers the registrable declarations, in their order. -/
theorem forall₂_describedBy {o : Options} {ds : List Declaration} {rs : List Registration} {c : Container}
    (h : (compose o ds).outcome = .ok (rs, c)) :
    List.Forall₂ (Declaration.DescribedBy ds o.strictMarkers) (ds.filter (Declaration.IsRegistrable ds)) rs := by
  obtain ⟨rs', hrs, h⟩ := Noted.outcome_bind_eq_ok.mp h
  obtain ⟨c', -, h⟩ := Noted.outcome_bind_eq_ok.mp h
  obtain ⟨rfl, -⟩ := Prod.mk.inj (Except.ok.inj h)
  refine forall₂_registrable ?_ (registrations_eq_ok.mp hrs)
  exact fun d c r hc hr => (describedBy_iff hc).mpr hr

/-! ### One scoped service -/

section

variable {inRoot : List Registration} {r q : Registration} {id : String}

theorem identified?_eq_some {x : Identified} :
    q.identified? = some x ↔ q.IsIdentifiedBy x.identifier ∧ x.registration = q := by
  rw [Registration.identified?, Registration.identifier?, Option.map_eq_some_iff, Registration.IsIdentifiedBy]
  constructor
  · rintro ⟨id, hid, rfl⟩
    refine ⟨?_, rfl⟩
    cases hkey : serviceIdentifier q.key with
    | ok name => rw [hkey] at hid; exact congrArg Except.ok (Option.some.inj hid)
    | error e => rw [hkey] at hid; cases hid
  · rintro ⟨hid, rfl⟩
    exact ⟨x.identifier, by rw [hid]; rfl, rfl⟩

/-- Where identifiers are distinct, a registration that has one is the only one. -/
theorem exists_split_of_identified (hdistinct : (inRoot.map Registration.identifier?).Nodup) (hq : q ∈ inRoot)
    (hid : q.IsIdentifiedBy id) :
    ∃ before after, inRoot = before ++ q :: after ∧ ∀ p ∈ before ++ after, ¬ p.IsIdentifiedBy id := by
  obtain ⟨before, after, rfl⟩ := List.append_of_mem hq
  refine ⟨before, after, rfl, fun p hp hp' => ?_⟩
  have hmoved : ((q :: (before ++ after)).map Registration.identifier?).Nodup :=
    (List.perm_middle.map _).nodup_iff.mp hdistinct
  refine (List.nodup_cons.mp hmoved).1 ?_
  rw [Registration.identifier?_eq_some hid, ← Registration.identifier?_eq_some hp']
  exact List.mem_map_of_mem hp

/-- The warning about a scoped service is about the only service of the root provider that has its identifier. -/
theorem shadows_shadowNotes (hdistinct : (inRoot.map Registration.identifier?).Nodup) (hr : ∃ a, r.accessor = .ok a) :
    r.Shadows inRoot (shadowNotes (inRoot.filterMap Registration.identified?) r) := by
  obtain ⟨a, ha⟩ := hr
  obtain ⟨id, hid⟩ := Registration.exists_identifier ha
  have hidentified : r.identified? = some ⟨id, r⟩ := identified?_eq_some.mpr ⟨hid, rfl⟩
  rw [shadowNotes, hidentified, Option.toList_some, List.flatMap_singleton]
  cases hfind : (inRoot.filterMap Registration.identified?).find? (·.identifier == id) with
  | none =>
    refine .alone hid fun q hq hq' => ?_
    have hnone := List.find?_eq_none.mp hfind ⟨id, q⟩
      (List.mem_filterMap.mpr ⟨q, hq, identified?_eq_some.mpr ⟨hq', rfl⟩⟩)
    simp at hnone
  | some x =>
    obtain ⟨q, hq, hx⟩ := List.mem_filterMap.mp (List.mem_of_find?_eq_some hfind)
    obtain ⟨hsame, rfl⟩ := identified?_eq_some.mp hx
    have hname := List.find?_some hfind
    rw [beq_iff_eq.mp hname] at hsame
    obtain ⟨before, after, hsplit, honly⟩ := exists_split_of_identified hdistinct hq hsame
    exact .shadows hid hsplit hsame honly

end

/-! ### All findings -/

/-- The registrable declarations are registered. The findings are those about them in the order of declaration, and
after them those about the scoped services in their order. -/
theorem diagnostics_exact {o : Options} {ds : List Declaration} {g : Generated} (h : generate o ds = .ok g) :
    List.Forall₂ (Declaration.DescribedBy ds o.strictMarkers) (ds.filter (Declaration.IsRegistrable ds))
      g.registrations ∧
    ∃ findings warnings,
      List.Forall₂ (Declaration.Finds ds) (ds.filter (Declaration.IsRegistrable ds)) findings ∧
      List.Forall₂ (Registration.Shadows
          (g.registrations.filter fun r => r.lifetime = .singleton ∨ r.lifetime = .transient))
        (g.registrations.filter fun r => r.lifetime = .scoped) warnings ∧
      g.diagnostics = findings.flatten ++ warnings.flatten := by
  obtain ⟨-, rs, c, hcompose, rfl⟩ := generate_eq_ok.mp h
  obtain ⟨hregisters, -, -, hc⟩ := compose_eq_ok.mp hcompose
  refine ⟨forall₂_describedBy hcompose, (candidates ds).map (Candidate.notes o.strictMarkers),
    (scopedRegistrations rs).map (shadowNotes ((rootRegistrations rs).filterMap Registration.identified?)),
    forall₂_finds hregisters, ?_, ?_⟩
  · dsimp only
    rw [← rootRegistrations_eq, ← scopedRegistrations_eq, List.forall₂_map_right_iff, List.forall₂_same]
    exact fun r hr => shadows_shadowNotes hc.root.distinct (hc.nested.accessible r hr)
  · exact compose_notes hcompose

namespace Sample

/-- The type `&dyn ServiceProvider`. -/
def providerReference : TypeExpr :=
  ⟨.phrase .reference (Syntax.operator "&" ++ [.phrase .object
    [.ident "dyn", .phrase .traitBound [.phrase .segment [.ident "ServiceProvider"]]]])⟩

/-- A type whose markers disagree, a type with a factory after a method that is none and before one that nobody looks
at, and a scoped type that has the name of the first one in another module. -/
def lobby : List Declaration :=
  [declared "Clock" ["singleton", "scoped"],
   { declared "Door" ["transient"] with
     methods :=
       [⟨"ajar", true, true, [], some (.ofName "Self")⟩,
        ⟨"wide", true, true, [⟨"provider", providerReference⟩], some (.ofName "Self")⟩,
        ⟨"shut", true, true, [], none⟩] },
   { declared "Clock" ["scoped"] with
     type := ⟨.phrase .typePath ([.phrase .segment [.ident "front"]] ++ Syntax.operator "::"
       ++ [.phrase .segment [.ident "Clock"]])⟩ }]

/-- What is noted about the lobby. -/
def lobbyFindings : List Diagnostic :=
  [⟨.warning, "Clock", "存在相互冲突的服务标记，采用第一条: own [singleton], own [scoped]"⟩,
   ⟨.note, "Door", "工厂方法 `ajar` 必须只接受一个 `&dyn ServiceProvider` 参数并返回 `Door`，已忽略"⟩,
   ⟨.warning, "front::Clock", "作用域服务键 `front::Clock` 与根服务键 `Clock` 生成相同的标识符 `clock`；" ++
      "若二者是同一类型，作用域内的实例会遮蔽根实例"⟩]

theorem lobby_diagnostics : (generate {} lobby).toOption.map (·.diagnostics) = some lobbyFindings := by
  decide +kernel

end Sample

theorem diagnostics_exact_lobby : ∃ g, generate {} Sample.lobby = .ok g ∧ g.diagnostics = Sample.lobbyFindings ∧
    List.Forall₂ (Declaration.DescribedBy Sample.lobby false)
      (Sample.lobby.filter (Declaration.IsRegistrable Sample.lobby)) g.registrations ∧
    ∃ findings warnings,
      List.Forall₂ (Declaration.Finds Sample.lobby)
        (Sample.lobby.filter (Declaration.IsRegistrable Sample.lobby)) findings ∧
      List.Forall₂ (Registration.Shadows
          (g.registrations.filter fun r => r.lifetime = .singleton ∨ r.lifetime = .transient))
        (g.registrations.filter fun r => r.lifetime = .scoped) warnings ∧
      Sample.lobbyFindings = findings.flatten ++ warnings.flatten := by
  have hdiagnostics := Sample.lobby_diagnostics
  cases hg : generate {} Sample.lobby with
  | error e =>
    rw [hg] at hdiagnostics
    exact nomatch hdiagnostics
  | ok g =>
    rw [hg] at hdiagnostics
    have hfindings : g.diagnostics = Sample.lobbyFindings := Option.some.inj hdiagnostics
    exact ⟨g, rfl, hfindings, hfindings ▸ diagnostics_exact hg⟩

end ServiceContainer
