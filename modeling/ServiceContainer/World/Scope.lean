import ServiceContainer.World

/-!
# Scopes and disposal

A scope on a root provider gets a scoped provider with cells of its own; a scope on a scoped provider shares its
cells. A scope that owns its provider disposes of it when the scope ends, once. A scope ends when it is told to, or
when no handle leads to it any more.

## Main definitions

* `Handle.createScope` — new scopes
* `Handle.dispose` — disposal
* `World.release` — the world without a handle
-/

namespace ServiceContainer

/-- The provider inside a scope on a provider from outside. -/
def Foreign.scoped (f : Foreign) : Foreign := { f with name := f.name ++ "'" }

mutual

/-- A new scope on a handle. -/
def Handle.createScope : Handle → World → Handle × World
  | .root a store, w =>
    let (cells, w) := w.newStore
    let (id, w) := w.newScope
    (.scope id true (.scoped a (.root a store) cells), w)
  | .scoped a parent store, w =>
    let (id, w) := w.newScope
    (.scope id false (.scoped a parent store), w)
  | .scope _ _ inner, w => inner.createScope w
  | .composed parts, w =>
    let (scopes, w) := createScopes parts w
    let (id, w) := w.newScope
    (.scope id true (.composed scopes), w)
  | .foreign f, w =>
    let w := w.note (.scope f.name)
    let (id, w) := w.newScope
    (.scope id true (.foreign f.scoped), w)

/-- New scopes on some handles. -/
def createScopes : List Handle → World → List Handle × World
  | [], w => ([], w)
  | h :: rest, w =>
    let (s, w) := h.createScope w
    let (scopes, w) := createScopes rest w
    (s :: scopes, w)

end

/-- Disposes of the instances in those cells of a store that are filled. -/
def World.disposeCells (w : World) (store : Nat) (names : List String) : World :=
  { w with disposals := w.disposals ++ names.filterMap (w.cell? store) }

mutual

/-- Disposes of what a provider keeps. A scope does so only the first time, and only as an owner. -/
def Handle.dispose : Handle → World → World
  | .root a store, w => w.disposeCells store a.container.rootProvider.disposals
  | .scoped a _ store, w => w.disposeCells store a.container.scopedProvider.disposals
  | .scope id owner inner, w =>
    if w.ended.contains id then w
    else
      let w := { w with ended := w.ended ++ [id] }
      if owner then inner.dispose w else w
  | .composed parts, w => disposeParts parts w
  | .foreign f, w => w.note (.dispose f.name)

/-- Disposes of what some providers keep, in order. -/
def disposeParts : List Handle → World → World
  | [], w => w
  | h :: rest, w => disposeParts rest (h.dispose w)

end

mutual

/-- The scopes that a handle leads to, an outer one before those inside. -/
def Handle.scopes : Handle → List (Nat × Handle)
  | .root _ _ => []
  | .scoped _ parent _ => parent.scopes
  | .scope id owner inner => (id, .scope id owner inner) :: inner.scopes
  | .composed parts => scopesOf parts
  | .foreign _ => []

/-- The scopes that some handles lead to. -/
def scopesOf : List Handle → List (Nat × Handle)
  | [] => []
  | h :: rest => h.scopes ++ scopesOf rest

end

/-- The entries without those whose number comes again later. -/
def lastOccurrences : List (Nat × Handle) → List (Nat × Handle)
  | [] => []
  | x :: rest => if rest.any (·.1 == x.1) then lastOccurrences rest else x :: lastOccurrences rest

/-- The world without a handle: every scope that only this handle led to ends. -/
def World.release (w : World) (h : Handle) (remaining : List Handle) : World :=
  let kept := (scopesOf remaining).map (·.1)
  let gone := (lastOccurrences h.scopes).filter fun s => !kept.contains s.1
  gone.foldl (fun w s => s.2.dispose w) w

/-- The world without some handles, which are released in order. -/
def World.releaseAll (w : World) (remaining : List Handle) : List Handle → World
  | [] => w
  | h :: rest => (w.release h (rest ++ remaining)).releaseAll remaining rest

end ServiceContainer
