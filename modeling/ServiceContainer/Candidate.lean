import ServiceContainer.Declaration

/-!
# Candidates

A declaration is a candidate for a service when it can be an implementation and some marker applies to it: its own,
one of its base type, or one of a contract. Only the declarations named there count, not what they inherit.

## Main definitions

* `Origin`, `MarkerSource` — a marker and where it comes from
* `markerSources` — the markers of a declaration, the most important first
* `Candidate`, `candidates` — the candidates among declarations
-/

namespace ServiceContainer

/-- Where a marker comes from. -/
inductive Origin where
  | own
  | base (name : String)
  | contract (name : String)
  deriving DecidableEq, Repr

/-- The text of an origin. -/
def Origin.text : Origin → String
  | .own => "own"
  | .base name => "base " ++ name
  | .contract name => "contract " ++ name

/-- A marker and where it comes from. -/
structure MarkerSource where
  origin : Origin
  marker : Marker
  deriving Repr

/-- The text of a source in a message. -/
def MarkerSource.text (s : MarkerSource) : String :=
  let lifetime := s.marker.lifetime.getD "?"
  match s.marker.key with
  | some key => s.origin.text ++ " [" ++ lifetime ++ ", key = " ++ key.display ++ "]"
  | none => s.origin.text ++ " [" ++ lifetime ++ "]"

/-- The markers of the declaration that a type refers to. -/
def markersOf (ds : List Declaration) (reference : TypeExpr) : List Marker :=
  match findDeclaration? ds reference with
  | some d => d.markers
  | none => []

/-- The markers that apply to a declaration: its own, those of its base type, those of its contracts in order. -/
def markerSources (ds : List Declaration) (d : Declaration) : List MarkerSource :=
  d.markers.map (MarkerSource.mk .own)
    ++ d.base.toList.flatMap (fun base =>
        (markersOf ds base).map (MarkerSource.mk (.base base.display)))
    ++ d.contracts.flatMap (fun contract =>
        (markersOf ds contract).map (MarkerSource.mk (.contract contract.display)))

/-- A declaration with the markers that apply to it, of which the first decides. -/
structure Candidate where
  declaration : Declaration
  primary : MarkerSource
  others : List MarkerSource
  deriving Repr

namespace Candidate

/-- All markers that apply. -/
def sources (c : Candidate) : List MarkerSource := c.primary :: c.others

/-- More than one marker applies. -/
def isAmbiguous (c : Candidate) : Bool := !c.others.isEmpty

/-- The candidate that a declaration is, if it is one. -/
def ofDeclaration? (ds : List Declaration) (d : Declaration) : Option Candidate :=
  if d.isAbstract then none
  else match markerSources ds d with
    | [] => none
    | primary :: others => some ⟨d, primary, others⟩

end Candidate

/-- The candidates among declarations, in the order of declaration. -/
def candidates (ds : List Declaration) : List Candidate := ds.filterMap (Candidate.ofDeclaration? ds)

end ServiceContainer
