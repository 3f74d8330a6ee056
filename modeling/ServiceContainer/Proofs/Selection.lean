import Mathlib.Data.List.Forall2
import ServiceContainer.Registration

/-!
# Which services are registered

The registrations of a list of declarations, described without the functions that compute them. The markers that apply
to a declaration are its own and those lent by the declarations that its base type and its contracts name; what those
declarations inherit in turn is not asked. A declaration that can be an implementation and that some marker applies to
is registered as its first marker says, and the first declaration that cannot be registered ends everything.

## Main definitions

* `FirstOfName`, `Lends`, `Declaration.MarkedBy` — the markers that apply to a declaration
* `Declaration.IsRegistrable` — the declarations that are registered
* `Declaration.ConstructedBy` — how a declaration says that instances are made
* `Declaration.RegisteredAs`, `Declaration.FailsWith` — the registration of a declaration, or why there is none

## Main statements

* `ofCandidate_eq_ok`, `ofCandidate_eq_error` — one declaration
* `registrations_candidates` — all declarations
-/

namespace ServiceContainer

/-! ### The first that fails -/

section FirstFailing

variable {α : Type} {good bad : α → Prop} {x : α} {xs : List α}

/-- An element fails, and those before it do not. -/
def FirstFailing (good bad : α → Prop) (xs : List α) : Prop :=
  ∃ before x after, xs = before ++ x :: after ∧ (∀ b ∈ before, good b) ∧ bad x

theorem not_firstFailing_nil : ¬ FirstFailing good bad [] := by
  rintro ⟨before, x, after, hxs, -⟩
  cases before <;> exact nomatch hxs

theorem firstFailing_cons : FirstFailing good bad (x :: xs) ↔ bad x ∨ good x ∧ FirstFailing good bad xs := by
  constructor
  · rintro ⟨before, y, after, hxs, hbefore, hy⟩
    cases before with
    | nil =>
      obtain ⟨rfl, rfl⟩ := List.cons.inj hxs
      exact .inl hy
    | cons z before =>
      obtain ⟨rfl, rfl⟩ := List.cons.inj hxs
      exact .inr ⟨hbefore x List.mem_cons_self, before, y, after, rfl,
        fun b hb => hbefore b (List.mem_cons_of_mem x hb), hy⟩
  · rintro (hx | ⟨hx, before, y, after, rfl, hbefore, hy⟩)
    · exact ⟨[], x, xs, rfl, by simp, hx⟩
    · refine ⟨x :: before, y, after, rfl, fun b hb => ?_, hy⟩
      rcases List.mem_cons.mp hb with rfl | hb
      · exact hx
      · exact hbefore b hb

/-- What fails first does not depend on how the failing elements are described. -/
theorem firstFailing_congr {good' bad' : α → Prop}
    (hgood : ∀ x ∈ xs, good x ↔ good' x) (hbad : ∀ x ∈ xs, bad x ↔ bad' x) :
    FirstFailing good bad xs ↔ FirstFailing good' bad' xs := by
  induction xs with
  | nil => exact iff_of_false not_firstFailing_nil not_firstFailing_nil
  | cons x xs ih =>
    rw [firstFailing_cons, firstFailing_cons, hbad x List.mem_cons_self, hgood x List.mem_cons_self,
      ih (fun y hy => hgood y (List.mem_cons_of_mem x hy)) fun y hy => hbad y (List.mem_cons_of_mem x hy)]

end FirstFailing

variable {ds : List Declaration} {d : Declaration}

/-! ### Markers that apply -/

/-- The declaration is the first one with the name that a type ends with. -/
def FirstOfName (ds : List Declaration) (reference : TypeExpr) (d : Declaration) : Prop :=
  ∃ name before after, reference.simpleName? = some name ∧ ds = before ++ d :: after ∧ d.definitionName = name ∧
    ∀ b ∈ before, b.definitionName ≠ name

/-- The sources that a declaration has from a type that it names. -/
inductive Lends (ds : List Declaration) (reference : TypeExpr) (origin : Origin) : List MarkerSource → Prop where
  | found {d : Declaration} (first : FirstOfName ds reference d) :
    Lends ds reference origin (d.markers.map (MarkerSource.mk origin))
  | missing (none : ∀ d, ¬ FirstOfName ds reference d) : Lends ds reference origin []

/-- The sources of a declaration: its own markers, those of its base type, those of its contracts in order. -/
inductive Declaration.MarkedBy (ds : List Declaration) (d : Declaration) : List MarkerSource → Prop where
  | intro {fromBase fromContracts : List (List MarkerSource)}
    (base : List.Forall₂ (fun b => Lends ds b (.base b.display)) d.base.toList fromBase)
    (contracts : List.Forall₂ (fun c => Lends ds c (.contract c.display)) d.contracts fromContracts) :
    MarkedBy ds d (d.markers.map (MarkerSource.mk .own) ++ fromBase.flatten ++ fromContracts.flatten)

/-- The declaration is registered: it is not abstract, and it has a source. -/
def Declaration.IsRegistrable (ds : List Declaration) (d : Declaration) : Prop :=
  ¬ (d.withheld = true ∨ d.kind = .trait) ∧ ∃ s others, d.MarkedBy ds (s :: others)

/-! ### Construction -/

namespace Declaration

/-- A static method marked as a factory, that takes the provider alone and returns the declared type. -/
structure IsFactory (d : Declaration) (m : Method) : Prop where
  isStatic : m.isStatic = true
  marked : m.isFactory = true
  parameter : ∃ p, m.parameters = [p] ∧ isProviderReference p.type = true
  result : ∃ returns, m.returns = some returns ∧ (returns.replaceSelf d.type).display = d.type.display

/-- The declaration has no factory. -/
def HasNoFactory (d : Declaration) : Prop := ∀ m ∈ d.methods, ¬ d.IsFactory m

/-- How instances of the declared type are made: by the first factory, else by the constructor, else by name or by
default. -/
inductive ConstructedBy (d : Declaration) : Construction → Prop where
  | factory {before after : List Method} {m : Method} (methods : d.methods = before ++ m :: after)
    (chosen : d.IsFactory m) (first : ∀ b ∈ before, ¬ d.IsFactory b) : ConstructedBy d (.factory m.name)
  | constructor {c : Constructor} {arguments : List Argument} (noFactory : d.HasNoFactory)
    (declared : d.constructor = some c)
    (supplied : List.Forall₂ (fun p a => Argument.ofParameter d p = .ok a) c.parameters arguments) :
    ConstructedBy d (.constructor c.name arguments)
  | unitLiteral (noFactory : d.HasNoFactory) (undeclared : d.constructor = none) (unit : d.unit = true) :
    ConstructedBy d .unitLiteral
  | default (noFactory : d.HasNoFactory) (undeclared : d.constructor = none) (unit : d.unit = false) :
    ConstructedBy d .default

/-- A parameter of the constructor that is used cannot be supplied, and it is the first. -/
structure CannotSupply (d : Declaration) (e : GenerationError) : Prop where
  noFactory : d.HasNoFactory
  parameter : ∃ c, d.constructor = some c ∧
    FirstFailing (fun p => ∃ a, Argument.ofParameter d p = .ok a) (fun p => Argument.ofParameter d p = .error e)
      c.parameters

end Declaration

/-! ### Registration -/

/-- The markers ask for the same lifetime and the same key, as written. -/
def Marker.Agrees (m n : Marker) : Prop :=
  m.lifetime = n.lifetime ∧ m.key.map TypeExpr.display = n.key.map TypeExpr.display

section

variable (strict : Bool) (d : Declaration) (s : MarkerSource) (others : List MarkerSource)

/-- The key that a source gives a declaration. -/
def Declaration.keyFrom : TypeExpr := s.marker.key.getD d.type

/-- The other sources do not contradict the first one, or may. -/
def Tolerated : Prop := strict = true → ∀ o ∈ others, o.marker.Agrees s.marker

/-- The registration of a declaration whose sources are `s` and the others. -/
structure Declaration.RegisteredAs (r : Registration) : Prop where
  implementation : r.implementation = d.type
  lifetime : s.marker.lifetime = some r.lifetime.name
  tolerated : Tolerated strict s others
  key : r.key = d.keyFrom s
  valid : keyFault? (d.keyFrom s) = none
  construction : d.ConstructedBy r.construction
  disposable : r.disposable = d.disposable
  origin : r.origin = s.origin
  ambiguous : r.ambiguous = true ↔ others ≠ []

/-- Why a declaration whose sources are `s` and the others has no registration: the first thing that is wrong. -/
inductive Declaration.FailsWith : GenerationError → Prop where
  | missingLifetime (missing : s.marker.lifetime = none) : FailsWith (.missingLifetime d.type.display)
  | unknownLifetime {text : String} (written : s.marker.lifetime = some text)
    (unknown : ∀ l : Lifetime, l.name ≠ text) : FailsWith (.unknownLifetime d.type.display text)
  | conflict {l : Lifetime} (known : s.marker.lifetime = some l.name) (conflict : ¬ Tolerated strict s others) :
    FailsWith (.conflictingMarkers d.type.display
      (String.intercalate ", " ((s :: others).map MarkerSource.text)))
  | key {l : Lifetime} {reason : String} (known : s.marker.lifetime = some l.name)
    (tolerated : Tolerated strict s others) (invalid : keyFault? (d.keyFrom s) = some reason) :
    FailsWith (.invalidKey (d.keyFrom s).display reason)
  | parameter {l : Lifetime} {e : GenerationError} (known : s.marker.lifetime = some l.name)
    (tolerated : Tolerated strict s others) (valid : keyFault? (d.keyFrom s) = none)
    (unsupplied : d.CannotSupply e) : FailsWith e

end

/-- The declaration is registered as its sources say. -/
def Declaration.DescribedBy (ds : List Declaration) (strict : Bool) (d : Declaration) (r : Registration) : Prop :=
  ∃ s others, d.MarkedBy ds (s :: others) ∧ d.RegisteredAs strict s others r

/-- The declaration fails with an error, as its sources say. -/
def Declaration.FailsIn (ds : List Declaration) (strict : Bool) (e : GenerationError) (d : Declaration) : Prop :=
  ∃ s others, d.MarkedBy ds (s :: others) ∧ d.FailsWith strict s others e

/-! ### Sources are computed -/

theorem findDeclaration?_eq_some {reference : TypeExpr} :
    findDeclaration? ds reference = some d ↔ FirstOfName ds reference d := by
  simp only [findDeclaration?, Option.bind_eq_bind, Option.bind_eq_some_iff, List.find?_eq_some_iff_append,
    beq_iff_eq, FirstOfName]
  constructor
  · rintro ⟨name, hname, hd, before, after, rfl, hbefore⟩
    exact ⟨name, before, after, hname, rfl, hd, fun b hb => by simpa using hbefore b hb⟩
  · rintro ⟨name, before, after, hname, rfl, hd, hbefore⟩
    exact ⟨name, hname, hd, before, after, rfl, fun b hb => by simpa using hbefore b hb⟩

theorem lends_iff {reference : TypeExpr} {origin : Origin} {ss : List MarkerSource} :
    Lends ds reference origin ss ↔ (markersOf ds reference).map (MarkerSource.mk origin) = ss := by
  rw [markersOf]
  constructor
  · rintro (hd | hnone)
    · rw [findDeclaration?_eq_some.mpr hd]
    · rw [Option.eq_none_iff_forall_ne_some.mpr fun d hd => hnone d (findDeclaration?_eq_some.mp hd)]
      rfl
  · rintro rfl
    split
    next d hd => exact .found (findDeclaration?_eq_some.mp hd)
    next hnone => exact .missing fun d hd => nomatch hnone.symm.trans (findDeclaration?_eq_some.mpr hd)

/-- The sources of a declaration are those that are computed. -/
theorem markedBy_iff {ss : List MarkerSource} : d.MarkedBy ds ss ↔ markerSources ds d = ss := by
  have hmaps (ts : List TypeExpr) (origin : TypeExpr → Origin) (sss : List (List MarkerSource)) :
      List.Forall₂ (fun t => Lends ds t (origin t)) ts sss ↔
        ts.map (fun t => (markersOf ds t).map (MarkerSource.mk (origin t))) = sss := by
    have hrel : (fun t => Lends ds t (origin t)) =
        fun t ss => (markersOf ds t).map (MarkerSource.mk (origin t)) = ss := by
      funext t ss
      exact propext lends_iff
    rw [hrel, ← List.forall₂_map_left_iff, List.forall₂_eq_eq_eq]
  constructor
  · rintro ⟨hbase, hcontracts⟩
    rw [hmaps] at hbase hcontracts
    rw [markerSources, ← hbase, ← hcontracts, List.flatMap_def, List.flatMap_def]
  · rintro rfl
    rw [markerSources, List.flatMap_def, List.flatMap_def]
    exact .intro ((hmaps ..).mpr rfl) ((hmaps ..).mpr rfl)

theorem isRegistrable_iff : d.IsRegistrable ds ↔ (Candidate.ofDeclaration? ds d).isSome = true := by
  simp only [Declaration.IsRegistrable, markedBy_iff, Candidate.ofDeclaration?, Declaration.isAbstract,
    Bool.or_eq_true, decide_eq_true_eq]
  split
  next habstract => simp [habstract]
  next habstract =>
    rw [and_iff_right habstract]
    split
    next hnone => simp [hnone]
    next s others hsome => simp [hsome]

instance : DecidablePred (Declaration.IsRegistrable ds) := fun _ => decidable_of_iff' _ isRegistrable_iff

theorem ofDeclaration?_eq_some {c : Candidate} (h : Candidate.ofDeclaration? ds d = some c) :
    c.declaration = d ∧ d.MarkedBy ds (c.primary :: c.others) := by
  rw [Candidate.ofDeclaration?, Option.ite_none_left_eq_some] at h
  obtain ⟨-, h⟩ := h
  split at h
  · exact nomatch h
  next s others hsome =>
    obtain rfl := Option.some.inj h
    exact ⟨rfl, markedBy_iff.mpr hsome⟩

theorem declaration_mem_of_mem_candidates {c : Candidate} (hc : c ∈ candidates ds) : c.declaration ∈ ds := by
  obtain ⟨d, hd, h⟩ := List.mem_filterMap.mp hc
  rw [(ofDeclaration?_eq_some h).1]
  exact hd

/-! ### The parts of a registration are computed -/

theorem isFactory_iff {m : Method} :
    ((m.isStatic && m.isFactory) && hasFactoryShape d m) = true ↔ d.IsFactory m := by
  simp only [hasFactoryShape, Bool.and_eq_true, Option.any_eq_true, TypeExpr.beq_iff]
  constructor
  · rintro ⟨⟨hstatic, hmarked⟩, ⟨returns, hreturns, hself⟩, hparameter⟩
    refine ⟨hstatic, hmarked, ?_, returns, hreturns, hself⟩
    split at hparameter
    next p hp => exact ⟨p, hp, hparameter⟩
    next => exact nomatch hparameter
  · rintro ⟨hstatic, hmarked, ⟨p, hp, hprovider⟩, returns, hreturns, hself⟩
    refine ⟨⟨hstatic, hmarked⟩, ⟨returns, hreturns, hself⟩, ?_⟩
    rw [hp]
    exact hprovider

/-- Choosing a factory cannot fail. -/
theorem chooseFactory_outcome (d : Declaration) (ms : List Method) :
    (chooseFactory d ms).outcome = .ok (ms.find? (hasFactoryShape d)) := by
  induction ms with
  | nil => rfl
  | cons m rest ih =>
    rw [chooseFactory, List.find?_cons]
    split
    next h => rw [h, Noted.pure_outcome]
    next h =>
      rw [Noted.bind_ok _ (Noted.tell_outcome _), ih]
      simp [h]

theorem find?_factoryMethods (d : Declaration) : (factoryMethods d).find? (hasFactoryShape d) =
    d.methods.find? fun m => (m.isStatic && m.isFactory) && hasFactoryShape d m := by
  -- Two filters and a search are one search in the methods as they were declared.
  rw [factoryMethods, Declaration.staticMethods, List.filter_filter, List.find?_filter]
  congr 1
  funext m
  rw [Bool.and_comm m.isStatic]
  simp

theorem find?_factoryMethods_eq_some {m : Method} :
    (factoryMethods d).find? (hasFactoryShape d) = some m ↔
      ∃ before after, d.methods = before ++ m :: after ∧ d.IsFactory m ∧ ∀ b ∈ before, ¬ d.IsFactory b := by
  have hnot (b : Method) : (!((b.isStatic && b.isFactory) && hasFactoryShape d b)) = true ↔ ¬ d.IsFactory b := by
    rw [Bool.not_eq_true', ← Bool.not_eq_true, isFactory_iff]
  simp only [find?_factoryMethods, List.find?_eq_some_iff_append, isFactory_iff, hnot]
  constructor
  · rintro ⟨hm, before, after, hmethods, hbefore⟩
    exact ⟨before, after, hmethods, hm, hbefore⟩
  · rintro ⟨before, after, hmethods, hm, hbefore⟩
    exact ⟨hm, before, after, hmethods, hbefore⟩

theorem find?_factoryMethods_eq_none :
    (factoryMethods d).find? (hasFactoryShape d) = none ↔ d.HasNoFactory := by
  simp only [find?_factoryMethods, List.find?_eq_none, Declaration.HasNoFactory, isFactory_iff]

/-- What is on one side of lists in step has a partner on the other. -/
theorem exists_rel_of_mem_right {α β : Type} {R : α → β → Prop} {xs : List α} {ys : List β} (h : List.Forall₂ R xs ys)
    {y : β} (hy : y ∈ ys) : ∃ x ∈ xs, R x y := by
  induction h with
  | nil => exact nomatch hy
  | cons hr _ ih =>
    rcases List.mem_cons.mp hy with rfl | hy
    · exact ⟨_, List.mem_cons_self, hr⟩
    · obtain ⟨x, hx, hxy⟩ := ih hy
      exact ⟨x, List.mem_cons_of_mem _ hx, hxy⟩

/-- A list is mapped without an error when every element is. -/
theorem mapM_eq_ok {ε α β : Type} {f : α → Except ε β} {xs : List α} {ys : List β} :
    xs.mapM f = .ok ys ↔ List.Forall₂ (fun x y => f x = .ok y) xs ys := by
  induction xs generalizing ys with
  | nil => cases ys <;> simp [pure_eq_ok]
  | cons x xs ih =>
    simp only [List.mapM_cons, bind_eq_ok, pure_eq_ok, ih]
    constructor
    · rintro ⟨y, hy, more, hmore, rfl⟩
      exact .cons hy hmore
    · rintro (_ | ⟨hy, hmore⟩)
      exact ⟨_, hy, _, hmore, rfl⟩

/-- The error of mapping a list is that of the first element that has one. -/
theorem mapM_eq_error {ε α β : Type} {f : α → Except ε β} {xs : List α} {e : ε} :
    xs.mapM f = .error e ↔ FirstFailing (fun x => ∃ y, f x = .ok y) (fun x => f x = .error e) xs := by
  induction xs with
  | nil => exact iff_of_false (nomatch ·) not_firstFailing_nil
  | cons x xs ih =>
    simp only [List.mapM_cons, bind_eq_error, firstFailing_cons, ih]
    constructor
    · rintro (hx | ⟨y, hy, hmore | ⟨_, _, hpure⟩⟩)
      · exact .inl hx
      · exact .inr ⟨⟨y, hy⟩, hmore⟩
      · exact nomatch hpure
    · rintro (hx | ⟨⟨y, hy⟩, hmore⟩)
      · exact .inl hx
      · exact .inr ⟨y, hy, .inl hmore⟩

/-- The way of making instances that is computed is the declared one. -/
theorem construction_eq_ok {k : Construction} :
    (Construction.ofDeclaration d).outcome = .ok k ↔ d.ConstructedBy k := by
  rw [Construction.ofDeclaration, Noted.bind_ok _ (chooseFactory_outcome d _)]
  -- A factory goes before everything else, so the constructor and the unit literal are looked at only without one.
  cases hfactory : (factoryMethods d).find? (hasFactoryShape d) with
  | some m =>
    obtain ⟨before, after, hmethods, hm, hbefore⟩ := find?_factoryMethods_eq_some.mp hfactory
    have hsome : ¬ d.HasNoFactory := fun hnone => hnone m (by simp [hmethods]) hm
    constructor
    · intro h
      rw [← Except.ok.inj h]
      exact .factory hmethods hm hbefore
    · rintro (⟨hmethods', hm', hbefore'⟩ | ⟨hnone, _, _⟩ | ⟨hnone, _, _⟩ | ⟨hnone, _, _⟩)
      · have heq := find?_factoryMethods_eq_some.mpr ⟨_, _, hmethods', hm', hbefore'⟩
        rw [hfactory, Option.some.injEq] at heq
        rw [heq]
        rfl
      all_goals exact absurd hnone hsome
  | none =>
    have hnone := find?_factoryMethods_eq_none.mp hfactory
    have hnot {m : Method} {before after : List Method} (hmethods : d.methods = before ++ m :: after) :
        ¬ d.IsFactory m := hnone m (by simp [hmethods])
    cases hdeclared : d.constructor with
    | some c =>
      simp only [Noted.outcome_bind_eq_ok, Noted.ofExcept_outcome, Noted.pure_outcome, Except.ok.injEq, mapM_eq_ok]
      constructor
      · rintro ⟨arguments, hsupplied, rfl⟩
        exact .constructor hnone hdeclared hsupplied
      · rintro (⟨hmethods, hm, _⟩ | ⟨_, hdeclared', hsupplied⟩ | ⟨_, hundeclared, _⟩ | ⟨_, hundeclared, _⟩)
        · exact absurd hm (hnot hmethods)
        · obtain rfl := Option.some.inj (hdeclared.symm.trans hdeclared')
          exact ⟨_, hsupplied, rfl⟩
        all_goals exact nomatch hdeclared.symm.trans hundeclared
    | none =>
      simp only [Noted.pure_outcome, Except.ok.injEq]
      constructor
      · rintro rfl
        split
        next hunit => exact .unitLiteral hnone hdeclared hunit
        next hunit => exact .default hnone hdeclared (by simpa using hunit)
      · rintro (⟨hmethods, hm, _⟩ | ⟨_, hdeclared', _⟩ | ⟨_, _, hunit⟩ | ⟨_, _, hunit⟩)
        · exact absurd hm (hnot hmethods)
        · exact nomatch hdeclared.symm.trans hdeclared'
        all_goals simp [hunit]

theorem construction_eq_error {e : GenerationError} :
    (Construction.ofDeclaration d).outcome = .error e ↔ d.CannotSupply e := by
  rw [Construction.ofDeclaration, Noted.bind_ok _ (chooseFactory_outcome d _)]
  cases hfactory : (factoryMethods d).find? (hasFactoryShape d) with
  | some m =>
    obtain ⟨before, after, hmethods, hm, -⟩ := find?_factoryMethods_eq_some.mp hfactory
    exact iff_of_false (nomatch ·) fun h => h.noFactory m (by simp [hmethods]) hm
  | none =>
    have hnone := find?_factoryMethods_eq_none.mp hfactory
    cases hdeclared : d.constructor with
    | some c =>
      simp only [Noted.outcome_bind_eq_error, Noted.ofExcept_outcome, Noted.pure_outcome, reduceCtorEq, and_false,
        exists_false, or_false, mapM_eq_error]
      constructor
      · exact fun h => ⟨hnone, c, hdeclared, h⟩
      · rintro ⟨-, c', hdeclared', h⟩
        obtain rfl := Option.some.inj (hdeclared.symm.trans hdeclared')
        exact h
    | none => exact iff_of_false (nomatch ·) fun ⟨_, _, hdeclared', _⟩ => nomatch hdeclared.symm.trans hdeclared'

theorem lifetime_eq_ok {c : Candidate} {l : Lifetime} :
    c.lifetime = .ok l ↔ c.primary.marker.lifetime = some l.name := by
  rw [Candidate.lifetime]
  split
  next hnone => simp [hnone]
  next text htext =>
    rw [htext, Option.some.injEq]
    split
    next k hk => rw [Except.ok.injEq, eq_comm (a := text), ← Lifetime.ofName?_eq_some, hk, Option.some.injEq]
    next hnone => exact iff_of_false (nomatch ·) fun h => Lifetime.ofName?_eq_none.mp hnone l h.symm

theorem lifetime_eq_error {c : Candidate} {e : GenerationError} :
    c.lifetime = .error e ↔
      (c.primary.marker.lifetime = none ∧ e = .missingLifetime c.declaration.type.display) ∨
      ∃ text, c.primary.marker.lifetime = some text ∧ (∀ l : Lifetime, l.name ≠ text) ∧
        e = .unknownLifetime c.declaration.type.display text := by
  rw [Candidate.lifetime]
  split
  next hnone => simp [hnone, eq_comm]
  next text htext =>
    simp only [htext, reduceCtorEq, false_and, false_or, Option.some.injEq, exists_eq_left', ← Lifetime.ofName?_eq_none]
    split
    next k hk => simp [hk]
    next hnone => simp [hnone, eq_comm]

theorem disagree_iff {m n : Marker} : m.disagree n = true ↔ ¬ m.Agrees n := by
  have hkeys : (m.key == n.key) = true ↔ m.key.map TypeExpr.display = n.key.map TypeExpr.display := by
    cases m.key <;> cases n.key <;> simp [TypeExpr.beq_iff]
  rw [Marker.disagree, Marker.Agrees, not_and_or, ← hkeys, Bool.or_eq_true, bne_iff_ne, bne, Bool.not_eq_true',
    Bool.not_eq_true]

theorem tolerated_iff {strict : Bool} {c : Candidate} :
    Tolerated strict c.primary c.others ↔ ¬ (c.hasConflict = true ∧ strict = true) := by
  simp only [Candidate.hasConflict, List.any_eq_true, disagree_iff, Tolerated]
  constructor
  · rintro h ⟨⟨o, ho, hno⟩, hstrict⟩
    exact hno (h hstrict o ho)
  · intro h hstrict o ho
    exact Classical.not_not.mp fun hno => h ⟨⟨o, ho, hno⟩, hstrict⟩

theorem checkConflict_eq_ok {strict : Bool} {c : Candidate} :
    (c.checkConflict strict).outcome = .ok () ↔ Tolerated strict c.primary c.others := by
  rw [tolerated_iff, Candidate.checkConflict]
  cases c.hasConflict <;> cases strict <;> simp

theorem checkConflict_eq_error {strict : Bool} {c : Candidate} {e : GenerationError} :
    (c.checkConflict strict).outcome = .error e ↔ ¬ Tolerated strict c.primary c.others ∧
      e = .conflictingMarkers c.declaration.type.display c.sourceList := by
  rw [tolerated_iff, Candidate.checkConflict]
  cases c.hasConflict <;> cases strict <;> simp [eq_comm]

theorem checkKey_eq_ok {key : TypeExpr} : checkKey key = .ok () ↔ keyFault? key = none := by
  rw [checkKey]
  split
  next reason h => simp [h]
  next h => simp [h]

theorem checkKey_eq_error {key : TypeExpr} {e : GenerationError} :
    checkKey key = .error e ↔ ∃ reason, keyFault? key = some reason ∧ e = .invalidKey key.display reason := by
  rw [checkKey]
  split
  next reason h => simp [h, eq_comm]
  next h => simp [h]

/-! ### One declaration -/

section

variable {strict : Bool} {c : Candidate}

/-- The registration of a candidate is the one that its declaration is registered as. -/
theorem ofCandidate_eq_ok {r : Registration} :
    (Registration.ofCandidate strict c).outcome = .ok r ↔
      c.declaration.RegisteredAs strict c.primary c.others r := by
  have hambiguous : c.isAmbiguous = true ↔ c.others ≠ [] := by simp [Candidate.isAmbiguous]
  simp only [Registration.ofCandidate, Noted.outcome_bind_eq_ok, Noted.ofExcept_outcome, Noted.pure_outcome,
    Except.ok.injEq, construction_eq_ok, lifetime_eq_ok]
  constructor
  · rintro ⟨l, hl, ⟨⟩, hconflict, ⟨⟩, hkey, k, hk, rfl⟩
    exact ⟨rfl, hl, checkConflict_eq_ok.mp hconflict, rfl, checkKey_eq_ok.mp hkey, hk, rfl, rfl, hambiguous⟩
  · intro h
    refine ⟨_, h.lifetime, (), checkConflict_eq_ok.mpr h.tolerated, (), checkKey_eq_ok.mpr h.valid, _,
      h.construction, ?_⟩
    have hflag : r.ambiguous = c.isAmbiguous := by rw [Bool.eq_iff_iff, h.ambiguous, hambiguous]
    rw [hflag.symm, ← h.implementation, ← h.disposable, ← h.origin]
    have hkey : c.key = r.key := h.key.symm
    rw [hkey]

/-- The error of a candidate is the one that its declaration fails with. -/
theorem ofCandidate_eq_error {e : GenerationError} :
    (Registration.ofCandidate strict c).outcome = .error e ↔
      c.declaration.FailsWith strict c.primary c.others e := by
  -- Each check can fail only after those before it have passed, and the cases are in that order.
  simp only [Registration.ofCandidate, Noted.outcome_bind_eq_error, Noted.ofExcept_outcome, Noted.pure_outcome,
    construction_eq_error, lifetime_eq_ok, lifetime_eq_error, checkConflict_eq_error, checkKey_eq_error]
  constructor
  · rintro ((⟨hmissing, rfl⟩ | ⟨text, htext, hunknown, rfl⟩) | ⟨l, hl, ⟨hconflict, rfl⟩ | ⟨⟨⟩, hok, hrest⟩⟩)
    · exact .missingLifetime hmissing
    · exact .unknownLifetime htext hunknown
    · exact .conflict hl hconflict
    · have htolerated := checkConflict_eq_ok.mp hok
      rcases hrest with ⟨reason, hreason, rfl⟩ | ⟨⟨⟩, hvalid, hparameter | ⟨_, _, hpure⟩⟩
      · exact .key hl htolerated hreason
      · exact .parameter hl htolerated (checkKey_eq_ok.mp hvalid) hparameter
      · exact nomatch hpure
  · intro h
    cases h with
    | missingLifetime hmissing => exact .inl (.inl ⟨hmissing, rfl⟩)
    | unknownLifetime htext hunknown => exact .inl (.inr ⟨_, htext, hunknown, rfl⟩)
    | conflict hl hconflict => exact .inr ⟨_, hl, .inl ⟨hconflict, rfl⟩⟩
    | key hl htolerated hreason =>
      exact .inr ⟨_, hl, .inr ⟨(), checkConflict_eq_ok.mpr htolerated, .inl ⟨_, hreason, rfl⟩⟩⟩
    | parameter hl htolerated hvalid hparameter =>
      exact .inr ⟨_, hl, .inr ⟨(), checkConflict_eq_ok.mpr htolerated,
        .inr ⟨(), checkKey_eq_ok.mpr hvalid, .inl hparameter⟩⟩⟩

end

/-! ### All declarations -/

theorem registrations_eq_ok {strict : Bool} {cs : List Candidate} {rs : List Registration} :
    (registrations strict cs).outcome = .ok rs ↔
      List.Forall₂ (fun c r => c.declaration.RegisteredAs strict c.primary c.others r) cs rs := by
  induction cs generalizing rs with
  | nil => cases rs <;> simp [registrations]
  | cons c cs ih =>
    simp only [registrations, Noted.outcome_bind_eq_ok, Noted.pure_outcome, Except.ok.injEq, ih, ofCandidate_eq_ok]
    constructor
    · rintro ⟨r, hr, more, hmore, rfl⟩
      exact .cons hr hmore
    · rintro (_ | ⟨hr, hmore⟩)
      exact ⟨_, hr, _, hmore, rfl⟩

theorem registrations_eq_error {strict : Bool} {cs : List Candidate} {e : GenerationError} :
    (registrations strict cs).outcome = .error e ↔
      FirstFailing (fun c => ∃ r, c.declaration.RegisteredAs strict c.primary c.others r)
        (fun c => c.declaration.FailsWith strict c.primary c.others e) cs := by
  induction cs with
  | nil => exact iff_of_false (nomatch ·) not_firstFailing_nil
  | cons c cs ih =>
    simp only [registrations, Noted.outcome_bind_eq_error, Noted.pure_outcome, firstFailing_cons, ih,
      ofCandidate_eq_ok, ofCandidate_eq_error]
    constructor
    · rintro (hc | ⟨r, hr, hmore | ⟨_, _, hpure⟩⟩)
      · exact .inl hc
      · exact .inr ⟨⟨r, hr⟩, hmore⟩
      · exact nomatch hpure
    · rintro (hc | ⟨⟨r, hr⟩, hmore⟩)
      · exact .inl hc
      · exact .inr ⟨r, hr, .inl hmore⟩

section

variable {strict : Bool} {c : Candidate}

theorem describedBy_iff (h : Candidate.ofDeclaration? ds d = some c) {r : Registration} :
    d.DescribedBy ds strict r ↔ c.declaration.RegisteredAs strict c.primary c.others r := by
  obtain ⟨rfl, hmarked⟩ := ofDeclaration?_eq_some h
  constructor
  · rintro ⟨s, others, hmarked', hr⟩
    obtain ⟨rfl, rfl⟩ := List.cons.inj ((markedBy_iff.mp hmarked).symm.trans (markedBy_iff.mp hmarked'))
    exact hr
  · exact fun hr => ⟨_, _, hmarked, hr⟩

theorem failsIn_iff (h : Candidate.ofDeclaration? ds d = some c) {e : GenerationError} :
    d.FailsIn ds strict e ↔ c.declaration.FailsWith strict c.primary c.others e := by
  obtain ⟨rfl, hmarked⟩ := ofDeclaration?_eq_some h
  constructor
  · rintro ⟨s, others, hmarked', he⟩
    obtain ⟨rfl, rfl⟩ := List.cons.inj ((markedBy_iff.mp hmarked).symm.trans (markedBy_iff.mp hmarked'))
    exact he
  · exact fun he => ⟨_, _, hmarked, he⟩

/-- A candidate is skipped or comes first, on both sides. -/
theorem filterMap_candidates_cons (ds : List Declaration) (d : Declaration) (es : List Declaration) :
    (∃ c, Candidate.ofDeclaration? ds d = some c ∧
      (d :: es).filterMap (Candidate.ofDeclaration? ds) = c :: es.filterMap (Candidate.ofDeclaration? ds) ∧
      (d :: es).filter (Declaration.IsRegistrable ds) = d :: es.filter (Declaration.IsRegistrable ds)) ∨
    (d :: es).filterMap (Candidate.ofDeclaration? ds) = es.filterMap (Candidate.ofDeclaration? ds) ∧
      (d :: es).filter (Declaration.IsRegistrable ds) = es.filter (Declaration.IsRegistrable ds) := by
  cases h : Candidate.ofDeclaration? ds d with
  | none =>
    have hnot : ¬ d.IsRegistrable ds := fun hd => by simpa [h] using isRegistrable_iff.mp hd
    exact .inr ⟨List.filterMap_cons_none h, List.filter_cons_of_neg (by simpa using hnot)⟩
  | some c =>
    have hd : d.IsRegistrable ds := isRegistrable_iff.mpr (by rw [h]; rfl)
    exact .inl ⟨c, rfl, List.filterMap_cons_some h, List.filter_cons_of_pos (by simpa using hd)⟩

/-- The declarations that are not abstract and have a source are registered, in the order of declaration, each as its
sources say; and the error, where there is one, is that of the first of them that has none. -/
theorem registrations_candidates (ds : List Declaration) (strict : Bool) :
    (∀ rs, (registrations strict (candidates ds)).outcome = .ok rs ↔
      List.Forall₂ (Declaration.DescribedBy ds strict) (ds.filter (Declaration.IsRegistrable ds)) rs) ∧
    ∀ e, (registrations strict (candidates ds)).outcome = .error e ↔
      FirstFailing (fun d => ∃ r, d.DescribedBy ds strict r) (Declaration.FailsIn ds strict e)
        (ds.filter (Declaration.IsRegistrable ds)) := by
  -- Names are looked up among all declarations, so `ds` stays fixed while the induction runs over those to register.
  have hall (es : List Declaration) :
      (∀ rs, (registrations strict (es.filterMap (Candidate.ofDeclaration? ds))).outcome = .ok rs ↔
        List.Forall₂ (Declaration.DescribedBy ds strict) (es.filter (Declaration.IsRegistrable ds)) rs) ∧
      ∀ e, (registrations strict (es.filterMap (Candidate.ofDeclaration? ds))).outcome = .error e ↔
        FirstFailing (fun d => ∃ r, d.DescribedBy ds strict r) (Declaration.FailsIn ds strict e)
          (es.filter (Declaration.IsRegistrable ds)) := by
    simp only [registrations_eq_ok, registrations_eq_error]
    induction es with
    | nil =>
      refine ⟨fun rs => ?_, fun e => iff_of_false not_firstFailing_nil not_firstFailing_nil⟩
      simp
    | cons d es ih =>
      rcases filterMap_candidates_cons ds d es with ⟨c, hc, hmap, hfilter⟩ | ⟨hmap, hfilter⟩
      · rw [hmap, hfilter]
        constructor
        · intro rs
          simp only [List.forall₂_cons_left_iff, ih.1, describedBy_iff hc]
        · intro e
          simp only [firstFailing_cons, ih.2, describedBy_iff hc, failsIn_iff hc]
      · rw [hmap, hfilter]
        exact ih
  exact hall ds

end

end ServiceContainer
