import ServiceContainer.Proofs.DeclarationOrder

/-!
# Where markers stand

A base type and a contract lend the markers of the first declaration of their name. The search asks for the name only,
so that a contract can be taken for a struct of the module, and a base type for a trait. A candidate has its markers
from declarations of the right kinds exactly when neither happens.

## Main definitions

* `MarkerSource.StandsOn` — the declaration on which the marker of a source stands
* `Origin.Suits` — the kinds of declarations that an origin speaks of
* `Declaration.Mistakes` — a declaration is mistaken for a base type or for a contract

## Main statements

* `mem_markerSources` — the sources of a declaration, by where their markers stand
* `Candidate.sources_suit_iff` — when all markers of a candidate stand on declarations of the right kinds
-/

namespace ServiceContainer

variable {ds : List Declaration} {d e : Declaration} {reference : TypeExpr} {s : MarkerSource} {c : Candidate}

/-- The marker of a source stands on a declaration: on the declaration that has the source, or on the one that the name
of its base type or of a contract finds. -/
inductive MarkerSource.StandsOn (ds : List Declaration) (d : Declaration) : MarkerSource → Declaration → Prop where
  | own {m : Marker} (marked : m ∈ d.markers) : StandsOn ds d ⟨.own, m⟩ d
  | base {b : TypeExpr} {e : Declaration} {m : Marker} (named : d.base = some b) (first : FirstOfName ds b e)
    (marked : m ∈ e.markers) : StandsOn ds d ⟨.base b.display, m⟩ e
  | contract {t : TypeExpr} {e : Declaration} {m : Marker} (named : t ∈ d.contracts) (first : FirstOfName ds t e)
    (marked : m ∈ e.markers) : StandsOn ds d ⟨.contract t.display, m⟩ e

/-- The kinds of declarations that an origin speaks of: a contract is a trait, and a base type is a struct or an
enum. -/
def Origin.Suits : Origin → TypeKind → Prop
  | .own, _ => True
  | .base _, kind => kind = .struct ∨ kind = .enum
  | .contract _, kind => kind = .trait

/-- A marked declaration of another kind is the first with the name of the base type or of a contract. -/
inductive Declaration.Mistakes (ds : List Declaration) (d : Declaration) : Declaration → Prop where
  | base {b : TypeExpr} {e : Declaration} (named : d.base = some b) (first : FirstOfName ds b e)
    (kind : e.kind = .trait) (marked : e.markers ≠ []) : Mistakes ds d e
  | contract {t : TypeExpr} {e : Declaration} (named : t ∈ d.contracts) (first : FirstOfName ds t e)
    (kind : e.kind ≠ .trait) (marked : e.markers ≠ []) : Mistakes ds d e

/-! ### Sources and declarations -/

theorem FirstOfName.mem (h : FirstOfName ds reference e) : e ∈ ds := by
  obtain ⟨name, before, after, -, rfl, -, -⟩ := h
  exact List.mem_append_right before List.mem_cons_self

theorem MarkerSource.StandsOn.mem (hd : d ∈ ds) (h : s.StandsOn ds d e) : e ∈ ds := by
  cases h with
  | own marked => exact hd
  | base named first marked => exact first.mem
  | contract named first marked => exact first.mem

theorem MarkerSource.StandsOn.marker_mem (h : s.StandsOn ds d e) : s.marker ∈ e.markers := by
  cases h with
  | own marked => exact marked
  | base named first marked => exact marked
  | contract named first marked => exact marked

theorem mem_markersOf {m : Marker} : m ∈ markersOf ds reference ↔ ∃ e, FirstOfName ds reference e ∧ m ∈ e.markers := by
  simp only [← findDeclaration?_eq_some, markersOf]
  cases findDeclaration? ds reference <;> simp

/-- The sources of a declaration are the markers that stand on it or on a declaration that it names. -/
theorem mem_markerSources : s ∈ markerSources ds d ↔ ∃ e, s.StandsOn ds d e := by
  simp only [markerSources, List.mem_append, List.mem_map, List.mem_flatMap, Option.mem_toList, mem_markersOf]
  constructor
  · rintro ((⟨m, hm, rfl⟩ | ⟨b, hb, m, ⟨e, hfirst, hm⟩, rfl⟩) | ⟨t, ht, m, ⟨e, hfirst, hm⟩, rfl⟩)
    · exact ⟨d, .own hm⟩
    · exact ⟨e, .base hb hfirst hm⟩
    · exact ⟨e, .contract ht hfirst hm⟩
  · rintro ⟨e, hs⟩
    cases hs with
    | own marked => exact .inl (.inl ⟨_, marked, rfl⟩)
    | base named first marked => exact .inl (.inr ⟨_, named, _, ⟨e, first, marked⟩, rfl⟩)
    | contract named first marked => exact .inr ⟨_, named, _, ⟨e, first, marked⟩, rfl⟩

theorem Candidate.mem_sources (hc : c ∈ candidates ds) : s ∈ c.sources ↔ ∃ e, s.StandsOn ds c.declaration e := by
  obtain ⟨d, -, hd⟩ := List.mem_filterMap.mp hc
  obtain ⟨rfl, hmarked⟩ := ofDeclaration?_eq_some hd
  rw [← mem_markerSources, markedBy_iff.mp hmarked, sources]

/-! ### Kinds -/

theorem TypeKind.ne_trait_iff {kind : TypeKind} : kind ≠ .trait ↔ kind = .struct ∨ kind = .enum := by
  cases kind <;> simp

/-- A source whose origin does not suit the declaration that its marker stands on comes from a mistake, and each mistake
leads to such a source. -/
theorem mistakes_iff : d.Mistakes ds e ↔ ∃ s : MarkerSource, s.StandsOn ds d e ∧ ¬ s.origin.Suits e.kind := by
  constructor
  · intro h
    cases h with
    | base named first kind marked =>
      obtain ⟨m, hm⟩ := List.exists_mem_of_ne_nil _ marked
      refine ⟨_, .base named first hm, ?_⟩
      rw [Origin.Suits, ← TypeKind.ne_trait_iff]
      exact fun hne => hne kind
    | contract named first kind marked =>
      obtain ⟨m, hm⟩ := List.exists_mem_of_ne_nil _ marked
      exact ⟨_, .contract named first hm, kind⟩
  · rintro ⟨s, hs, hsuits⟩
    cases hs with
    | own marked => exact absurd trivial hsuits
    | base named first marked =>
      rw [Origin.Suits, ← TypeKind.ne_trait_iff, not_not] at hsuits
      exact .base named first hsuits (List.ne_nil_of_mem marked)
    | contract named first marked => exact .contract named first hsuits (List.ne_nil_of_mem marked)

/-- The markers of a candidate all stand on declarations of the module of the kinds that their origins speak of exactly
when no declaration is mistaken for the candidate's base type or for one of its contracts. Where none is, a candidate
without markers of its own and without a base type has a contract that is a marked trait of the module. -/
theorem Candidate.sources_suit_iff {ds : List Declaration} {c : Candidate} (hc : c ∈ candidates ds) :
    ((∀ s ∈ c.sources, (∃ e ∈ ds, s.StandsOn ds c.declaration e) ∧
        ∀ e, s.StandsOn ds c.declaration e → s.origin.Suits e.kind) ↔
      ∀ e, ¬ c.declaration.Mistakes ds e) ∧
    ((∀ e, ¬ c.declaration.Mistakes ds e) → c.declaration.markers = [] → c.declaration.base = none →
      ∃ t ∈ c.declaration.contracts, ∃ e, FirstOfName ds t e ∧ e.kind = .trait ∧ e.markers ≠ []) := by
  have hsource {s : MarkerSource} {e : Declaration} (hs : s.StandsOn ds c.declaration e) : s ∈ c.sources :=
    (mem_sources hc).mpr ⟨e, hs⟩
  refine ⟨⟨fun hall e hmistake => ?_, fun hnone s hs => ?_⟩, fun hnone hown hbase => ?_⟩
  · obtain ⟨s, hs, hsuits⟩ := mistakes_iff.mp hmistake
    exact hsuits ((hall s (hsource hs)).2 e hs)
  · obtain ⟨e, he⟩ := (mem_sources hc).mp hs
    refine ⟨⟨e, he.mem (declaration_mem_of_mem_candidates hc), he⟩, fun e' he' => ?_⟩
    by_contra hsuits
    exact hnone e' (mistakes_iff.mpr ⟨s, he', hsuits⟩)
  · -- The first marker stands somewhere, and only a contract is left.
    have hprimary : c.primary ∈ c.sources := List.mem_cons_self
    obtain ⟨e, he⟩ := (mem_sources hc).mp hprimary
    generalize c.primary = s at he
    cases he with
    | own marked => exact absurd marked (by simp [hown])
    | base named first marked => exact nomatch hbase.symm.trans named
    | @contract t e m named first marked =>
      refine ⟨t, named, e, first, ?_, List.ne_nil_of_mem marked⟩
      by_contra hkind
      exact hnone e (.contract named first hkind (List.ne_nil_of_mem marked))

/-- The bell of the desk has no marker of its own: it has that of the trait that it implements. -/
theorem Candidate.sources_suit_iff_desk :
    ∃ c ∈ candidates Sample.desk, c.declaration.type.display = "Bell" ∧
      (∀ s ∈ c.sources, (∃ e ∈ Sample.desk, s.StandsOn Sample.desk c.declaration e) ∧
        ∀ e, s.StandsOn Sample.desk c.declaration e → s.origin.Suits e.kind) ∧
      ∃ t ∈ c.declaration.contracts, ∃ e, FirstOfName Sample.desk t e ∧ e.kind = .trait ∧ e.markers ≠ [] := by
  let c : Candidate := ⟨{ Sample.declared "Bell" [] with contracts := [.ofName "Alarm"] },
    ⟨.contract "Alarm", ⟨some "singleton", none⟩⟩, []⟩
  have hc : c ∈ candidates Sample.desk := List.mem_of_getElem? (i := 0) rfl
  have hnone : ∀ e, ¬ c.declaration.Mistakes Sample.desk e := by
    intro e hmistake
    cases hmistake with
    | base named => exact nomatch named
    | contract named first kind marked =>
      obtain rfl := List.mem_singleton.mp named
      have hfirst := findDeclaration?_eq_some.mpr first
      obtain rfl := Option.some.inj hfirst
      exact kind rfl
  obtain ⟨hsuit, hcontract⟩ := sources_suit_iff hc
  exact ⟨c, hc, by decide, hsuit.mpr hnone, hcontract hnone rfl rfl⟩

namespace Sample

/-- The type `std::fmt::Display`. -/
def standardDisplay : TypeExpr :=
  ⟨.phrase .typePath ([.phrase .segment [.ident "std"]] ++ Syntax.operator "::" ++ [.phrase .segment [.ident "fmt"]]
    ++ Syntax.operator "::" ++ [.phrase .segment [.ident "Display"]])⟩

/-- A marked type, and a type without markers that implements a trait of the same name from elsewhere. -/
def gallery : List Declaration :=
  [declared "Display" ["singleton"], { declared "Clock" [] with contracts := [standardDisplay] }]

end Sample

/-- The clock of the gallery is registered for the marker of a struct, which it does not implement. -/
theorem Candidate.not_sources_suit : ¬ ∀ (ds : List Declaration) (c : Candidate), c ∈ candidates ds →
    ∀ s ∈ c.sources, ∃ e ∈ ds, s.StandsOn ds c.declaration e ∧ s.origin.Suits e.kind := by
  intro h
  let c : Candidate := ⟨{ Sample.declared "Clock" [] with contracts := [Sample.standardDisplay] },
    ⟨.contract "std::fmt::Display", ⟨some "singleton", none⟩⟩, []⟩
  have hc : c ∈ candidates Sample.gallery := List.mem_of_getElem? (i := 1) rfl
  obtain ⟨e, he, -, hsuits⟩ := h Sample.gallery c hc c.primary List.mem_cons_self
  have hkinds : ∀ e ∈ Sample.gallery, e.kind = .struct := by simp [Sample.gallery, Sample.declared]
  exact nomatch (hkinds e he).symm.trans hsuits

end ServiceContainer
