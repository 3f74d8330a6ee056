import ServiceContainer.Proofs.Renaming

/-!
# Requests commute

A request fills the cells of what it comes to, whatever was filled before, and its verdict is the one of the
registrations. So after requests in any order and number, the same cells are filled, and nothing else is different but
which instances there are and how they are called. Whatever is done afterwards goes the same way: new handles and scopes
get the same numbers, requests the same verdicts, and the same cells are disposed of in the same order.

That requests fill the same cells in every state rests on an assumption about the code of services: it asks for the same
types on every making, whatever the answers are (`Assembly.requests`).

## Main definitions

* `World.Parallel`, `Stage.Parallel` — the same but for the instances
* `Outcome.Agrees`, `Stage.Commutes` — the same verdict, and what holds after two runs of requests

## Main statements

* `Stage.perform_parallel` — a step that is no request
* `Stage.Valid.run_mirrors` — every run
* `Stage.requests_commute` — requests commute
-/

namespace ServiceContainer

/-! ### Parallel worlds -/

namespace World

/-- The worlds have the same filled cells, what is in the same cells was disposed of in the same order, and apart from
the instances all is the same. -/
structure Parallel (w w' : World) : Prop where
  nextStore : w.nextStore = w'.nextStore
  nextScope : w.nextScope = w'.nextScope
  ended : w.ended = w'.ended
  calls : w.calls = w'.calls
  filled : ∀ p, w.Filled p ↔ w'.Filled p
  disposals : List.Forall₂ (SamePlace w w') w.disposals w'.disposals

variable {w w' : World}

namespace Parallel

theorem newStore (h : w.Parallel w') : w.newStore.1 = w'.newStore.1 ∧ w.newStore.2.Parallel w'.newStore.2 :=
  ⟨h.nextStore, congrArg (· + 1) h.nextStore, h.nextScope, h.ended, h.calls, h.filled, h.disposals⟩

theorem newScope (h : w.Parallel w') : w.newScope.1 = w'.newScope.1 ∧ w.newScope.2.Parallel w'.newScope.2 :=
  ⟨h.nextScope, h.nextStore, congrArg (· + 1) h.nextScope, h.ended, h.calls, h.filled, h.disposals⟩

theorem note (h : w.Parallel w') (c : Call) : (w.note c).Parallel (w'.note c) :=
  ⟨h.nextStore, h.nextScope, h.ended, congrArg (· ++ [c]) h.calls, h.filled, h.disposals⟩

theorem end_ (h : w.Parallel w') (id : Nat) :
    ({ w with ended := w.ended ++ [id] } : World).Parallel { w' with ended := w'.ended ++ [id] } :=
  ⟨h.nextStore, h.nextScope, congrArg (· ++ [id]) h.ended, h.calls, h.filled, h.disposals⟩

theorem disposeCells (h : w.Parallel w') (n : Nat) (names : List String) :
    (w.disposeCells n names).Parallel (w'.disposeCells n names) := by
  have hcells : List.Forall₂ (SamePlace w w') (names.filterMap (w.cell? n)) (names.filterMap (w'.cell? n)) := by
    refine List.rel_filterMap (R := Eq) (fun a b hab => ?_) (List.forall₂_refl names)
    exact hab ▸ rel_cell? h.filled n a
  exact ⟨h.nextStore, h.nextScope, h.ended, h.calls, h.filled, List.rel_append h.disposals hcells⟩

end Parallel

end World

mutual

/-- New scopes have the same numbers. -/
theorem Handle.createScope_parallel : ∀ (h : Handle) {w w' : World}, w.Parallel w' →
    (h.createScope w).1 = (h.createScope w').1 ∧ (h.createScope w).2.Parallel (h.createScope w').2
  | .root a store, w, w', hw => by
    obtain ⟨hstore, hw⟩ := hw.newStore
    obtain ⟨hscope, hw⟩ := hw.newScope
    refine ⟨?_, hw⟩
    change Handle.scope w.newStore.2.newScope.1 true (.scoped a (.root a store) w.newStore.1) = _
    rw [hscope, hstore]
    rfl
  | .scoped a parent store, w, w', hw => by
    obtain ⟨hscope, hw⟩ := hw.newScope
    refine ⟨?_, hw⟩
    rw [Handle.createScope, Handle.createScope]
    exact congrArg (fun id => Handle.scope id false (.scoped a parent store)) hscope
  | .scope _ _ inner, w, w', hw => by
    rw [Handle.createScope, Handle.createScope]
    exact Handle.createScope_parallel inner hw
  | .composed parts, w, w', hw => by
    obtain ⟨hscopes, hw⟩ := createScopes_parallel parts hw
    obtain ⟨hscope, hw⟩ := hw.newScope
    rw [Handle.createScope, Handle.createScope]
    refine ⟨?_, hw⟩
    change Handle.scope (createScopes parts w).2.newScope.1 true (.composed (createScopes parts w).1) = _
    rw [hscope, hscopes]
  | .foreign f, w, w', hw => by
    obtain ⟨hscope, hw⟩ := (hw.note (.scope f.name)).newScope
    refine ⟨?_, hw⟩
    rw [Handle.createScope, Handle.createScope]
    exact congrArg (fun id => Handle.scope id true (.foreign f.scoped)) hscope

theorem createScopes_parallel : ∀ (hs : List Handle) {w w' : World}, w.Parallel w' →
    (createScopes hs w).1 = (createScopes hs w').1 ∧ (createScopes hs w).2.Parallel (createScopes hs w').2
  | [], _, _, hw => ⟨rfl, hw⟩
  | h :: rest, w, w', hw => by
    obtain ⟨hfirst, hw⟩ := Handle.createScope_parallel h hw
    obtain ⟨hrest, hw⟩ := createScopes_parallel rest hw
    rw [createScopes, createScopes]
    exact ⟨List.cons_eq_cons.mpr ⟨hfirst, hrest⟩, hw⟩

end

mutual

/-- The same is disposed of. -/
theorem Handle.dispose_parallel : ∀ (h : Handle) {w w' : World}, w.Parallel w' → (h.dispose w).Parallel (h.dispose w')
  | .root a store, _, _, hw => hw.disposeCells store _
  | .scoped a _ store, _, _, hw => hw.disposeCells store _
  | .scope id owner inner, w, w', hw => by
    rw [Handle.dispose_scope, Handle.dispose_scope, ← hw.ended]
    split
    · exact hw
    · have hended := hw.end_ id
      rw [← hw.ended] at hended
      split
      · exact Handle.dispose_parallel inner hended
      · exact hended
  | .composed parts, _, _, hw => by
    rw [Handle.dispose, Handle.dispose]
    exact disposeParts_parallel parts hw
  | .foreign f, _, _, hw => hw.note (.dispose f.name)

theorem disposeParts_parallel : ∀ (hs : List Handle) {w w' : World}, w.Parallel w' →
    (disposeParts hs w).Parallel (disposeParts hs w')
  | [], _, _, hw => hw
  | h :: rest, _, _, hw => by
    rw [disposeParts, disposeParts]
    exact disposeParts_parallel rest (Handle.dispose_parallel h hw)

end

theorem World.Parallel.release {w w' : World} (hw : w.Parallel w') (h : Handle) (remaining : List Handle) :
    (w.release h remaining).Parallel (w'.release h remaining) := by
  have hfold (gone : List (Nat × Handle)) {v v' : World} (hv : v.Parallel v') :
      (gone.foldl (fun w s => s.2.dispose w) v).Parallel (gone.foldl (fun w s => s.2.dispose w) v') := by
    induction gone generalizing v v' with
    | nil => exact hv
    | cons x rest ih => exact ih (x.2.dispose_parallel hv)
  exact hfold _ hw

theorem World.Parallel.releaseAll {w w' : World} (hw : w.Parallel w') (remaining hs : List Handle) :
    (w.releaseAll remaining hs).Parallel (w'.releaseAll remaining hs) := by
  induction hs generalizing w w' with
  | nil => exact hw
  | cons h rest ih => exact ih (hw.release h _)

/-! ### Parallel stages -/

/-- The same handles have the same names, in parallel worlds. -/
structure Stage.Parallel (s s' : Stage) : Prop where
  handles : s.handles = s'.handles
  world : s.world.Parallel s'.world

namespace Stage

variable {s s' : Stage} {w w' : World} {t : Step}

theorem Parallel.handle? (h : s.Parallel s') (name : String) : s.handle? name = s'.handle? name := by
  rw [Stage.handle?, Stage.handle?, h.handles]

theorem Parallel.close (h : s.Parallel s') : s.close.Parallel s'.close := by
  rw [Stage.close, Stage.close, h.handles]
  exact h.world.releaseAll _ _

theorem put_parallel (hw : w.Parallel w') (handles : List (String × Handle)) (name : String) {h h' : Handle}
    (hh : h = h') : ((Stage.mk w handles).put name h).Parallel ((Stage.mk w' handles).put name h') := by
  subst hh
  have hsame : (Stage.mk w' handles).handle? name = (Stage.mk w handles).handle? name := rfl
  rw [put, put, hsame]
  cases (Stage.mk w handles).handle? name with
  | none => exact ⟨rfl, hw⟩
  | some old => exact ⟨rfl, hw.release old _⟩

/-- Which handles are taken does not depend on the world. -/
theorem takeAll?_mk (s : Stage) (w : World) (names : List String) :
    (Stage.mk w s.handles).takeAll? names = (s.takeAll? names).map fun x => (⟨w, x.1.handles⟩, x.2) := by
  induction names generalizing s with
  | nil => rfl
  | cons name rest ih =>
    have hsame : (Stage.mk w s.handles).handle? name = s.handle? name := rfl
    rw [takeAll?, takeAll?, hsame]
    cases s.handle? name with
    | none => rfl
    | some h =>
      change ((Stage.mk w (s.take name).handles).takeAll? rest).bind _ = _
      rw [ih (s.take name)]
      cases (s.take name).takeAll? rest <;> rfl

theorem onHandle_parallel {f f' : Handle → Stage × Outcome} (h : s.Parallel s') (name : String)
    (hf : ∀ g, (f g).1.Parallel (f' g).1 ∧ (f g).2 = (f' g).2) :
    (s.onHandle name f).1.Parallel (s'.onHandle name f').1 ∧ (s.onHandle name f).2 = (s'.onHandle name f').2 := by
  rw [onHandle, onHandle, h.handle? name]
  cases s'.handle? name with
  | none => exact ⟨h, rfl⟩
  | some g => exact hf g

/-- A step that asks for nothing does the same on parallel stages. -/
theorem perform_parallel (h : s.Parallel s') (ht : ¬ t.IsRequest) :
    (s.perform t).1.Parallel (s'.perform t).1 ∧ (s.perform t).2 = (s'.perform t).2 := by
  obtain ⟨w, handles⟩ := s
  obtain ⟨w', handles'⟩ := s'
  obtain ⟨rfl : handles = handles', hw : w.Parallel w'⟩ := id h
  cases t with
  | get | require => exact absurd trivial ht
  | root a name =>
    obtain ⟨hstore, hnew⟩ := hw.newStore
    exact ⟨put_parallel hnew _ name (congrArg (Handle.root a) hstore), rfl⟩
  | clone source name =>
    refine onHandle_parallel h source fun g => ?_
    cases g with
    | root a store => exact ⟨put_parallel hw _ name rfl, rfl⟩
    | _ => exact ⟨h, rfl⟩
  | foreign f name => exact ⟨put_parallel hw _ name rfl, rfl⟩
  | scope source name =>
    refine onHandle_parallel h source fun g => ?_
    obtain ⟨hscope, hnew⟩ := g.createScope_parallel hw
    exact ⟨put_parallel hnew _ name hscope, rfl⟩
  | innerScope source name =>
    refine onHandle_parallel h source fun g => ?_
    cases g with
    | scope id owner inner =>
      obtain ⟨hscope, hnew⟩ := inner.createScope_parallel hw
      exact ⟨put_parallel hnew _ name hscope, rfl⟩
    | _ => exact ⟨h, rfl⟩
  | own source name =>
    obtain ⟨hscope, hnew⟩ := hw.newScope
    refine onHandle_parallel h source fun g => ⟨put_parallel hnew _ name ?_, rfl⟩
    exact congrArg (fun id => Handle.scope id true g) hscope
  | nest source name =>
    obtain ⟨hscope, hnew⟩ := hw.newScope
    refine onHandle_parallel h source fun g => ⟨put_parallel hnew _ name ?_, rfl⟩
    exact congrArg (fun id => Handle.scope id false g) hscope
  | compose sources name =>
    -- The handles are taken one by one, whatever the world is, and then put together.
    rw [perform, perform, takeAll?_mk ⟨w, handles⟩ w' sources]
    cases htake : (Stage.mk w handles).takeAll? sources with
    | none => exact ⟨h, rfl⟩
    | some x =>
      have hworld : x.1.world = w := (takeAll?_eq_some htake).1
      exact ⟨put_parallel (hworld ▸ hw) x.1.handles name rfl, rfl⟩
  | dispose source => exact onHandle_parallel h source fun g => ⟨⟨rfl, g.dispose_parallel hw⟩, rfl⟩
  | finish source =>
    refine onHandle_parallel h source fun g => ?_
    cases g with
    | scope id owner inner =>
      have hshared : (Stage.mk w' handles).isShared source id = (Stage.mk w handles).isShared source id := rfl
      dsimp only
      rw [hshared]
      split
      · exact ⟨h, rfl⟩
      · exact ⟨⟨rfl, hw.release _ _⟩, rfl⟩
    | _ => exact ⟨h, rfl⟩
  | drop source => exact onHandle_parallel h source fun g => ⟨⟨rfl, hw.release g _⟩, rfl⟩
  | inspect source =>
    refine onHandle_parallel h source fun g => ?_
    cases g with
    | scope id owner inner => exact ⟨h, congrArg (fun ended => Outcome.scopeState owner (ended.contains id)) hw.ended⟩
    | _ => exact ⟨h, rfl⟩
  | _ =>
    obtain ⟨hstore, hnew⟩ := hw.newStore
    exact onHandle_parallel h _ fun g => ⟨put_parallel hnew _ _ (congrArg (Handle.scoped _ g) hstore), rfl⟩

end Stage

/-! ### Verdicts -/

/-- Both steps end, and the same comes of them up to which instance is found. -/
inductive Outcome.Agrees (ρ : Nat → Nat → Prop) : Outcome → Outcome → Prop where
  | same {o : Outcome} (ends : o ≠ .endless) : Agrees ρ o o
  | found {x y : Nat} (same : ρ x y) : Agrees ρ (.found x) (.found y)

/-- The instances were handed out by one handle for one type in two worlds: they are of one service, and in the same
cell if the service has one. -/
def World.Counterpart (w w' : World) (x y : Nat) : Prop := ∃ h type, w.Hands h type x ∧ w'.Hands h type y

section

variable {reg : Assembly → List Registration} {home : Nat → Option Keeper} {h : Handle} {source type : String}
variable {ρ ρ' : Nat → Nat → Prop} {o o' : Outcome} {w w' w₁ w₁' : World} {s s' : Stage} {t : Step}

namespace Outcome.Agrees

theorem mono (ho : o.Agrees ρ o') (hρ : ∀ x y, ρ x y → ρ' x y) : o.Agrees ρ' o' := by
  cases ho with
  | same ends => exact .same ends
  | found same => exact .found (hρ _ _ same)

theorem demanded (ho : o.Agrees ρ o') (type : String) : (o.demanded type).Agrees ρ (o'.demanded type) := by
  cases ho with
  | same ends => cases o <;> first | exact absurd rfl ends | exact .same nofun
  | found same => exact .found same

end Outcome.Agrees

theorem World.Counterpart.mono {x y : Nat} (hxy : w.Counterpart w' x y) (hw : w.Persists w₁)
    (hw' : w'.Persists w₁') : w₁.Counterpart w₁' x y :=
  let ⟨h, type, hx, hy⟩ := hxy
  ⟨h, type, hx.mono hw, hy.mono hw'⟩

/-- There is one verdict. -/
theorem Handle.Verdict.agrees (hlaid : ∀ k ∈ h.keepers, k.assembly.LaidOut (reg k.assembly))
    (ho : h.Verdict reg type o) (ho' : h.Verdict reg type o')
    (hfound : ∀ x y, o = .found x → o' = .found y → ρ x y) : o.Agrees ρ o' := by
  rcases ho.cases_outcome with rfl | ⟨x, rfl⟩ | ⟨missing, rfl⟩
  · rw [(ho'.absent_iff hlaid).mpr ((ho.absent_iff hlaid).mp rfl)]
    exact .same nofun
  · obtain ⟨y, rfl⟩ := (ho'.found_iff hlaid).mpr ((ho.found_iff hlaid).mp ⟨x, rfl⟩)
    exact .found (hfound x y rfl rfl)
  · rw [(ho'.refused_iff hlaid _).mpr ((ho.refused_iff hlaid _).mp rfl)]
    exact .same nofun

/-- The same requests keep worlds parallel. -/
theorem World.Parallel.serves (hw : w.Parallel w') (hserves : w.Serves reg home h type w₁)
    (hserves' : w'.Serves reg home h type w₁') : w₁.Parallel w₁' where
  nextStore := by rw [hserves.grows.nextStore, hserves'.grows.nextStore, hw.nextStore]
  nextScope := by rw [hserves.grows.nextScope, hserves'.grows.nextScope, hw.nextScope]
  ended := by rw [hserves.grows.ended, hserves'.grows.ended, hw.ended]
  calls := by rw [hserves.grows.calls, hserves'.grows.calls, hw.calls]
  filled p := by rw [hserves.fills p, hserves'.fills p, hw.filled p]
  disposals := by
    rw [hserves.grows.disposals, hserves'.grows.disposals]
    exact hw.disposals.imp fun x y hxy => hxy.mono hserves.grows.persists hserves'.grows.persists

variable (hlaid : ∀ n k, home n = some k → k.assembly.LaidOut (reg k.assembly))

namespace Stage

include hlaid in
/-- The verdict of a request depends on the handles only. -/
theorem agrees_of_asks (hhandles : s.handles = s'.handles) (hs : ∀ source h, s.handle? source = some h → h.Settled home)
    (hw : s.world.Furnished reg home) (hw' : s'.world.Furnished reg home) (ht : t.Asks source type) :
    (s.perform t).2.Agrees ((s.perform t).1.world.Counterpart (s'.perform t).1.world) (s'.perform t).2 := by
  have hsame : s'.handle? source = s.handle? source := by rw [handle?, handle?, hhandles]
  cases hh : s.handle? source with
  | none =>
    rw [perform_of_handle?_eq_none hh ht, perform_of_handle?_eq_none (hsame.trans hh) ht]
    exact .same Outcome.noConfusion
  | some h =>
    have hsettled := hs source h hh
    obtain ⟨w₁, hstage, -, hverdict, hhands⟩ := serves_of_handle? hlaid hh hsettled hw ht
    obtain ⟨w₁', hstage', -, hverdict', hhands'⟩ := serves_of_handle? hlaid (hsame.trans hh) hsettled hw' ht
    rw [hstage, hstage']
    have hlaidh : ∀ k ∈ h.keepers, k.assembly.LaidOut (reg k.assembly) := fun k hk => hlaid _ _ (hsettled.2 k hk).own
    have hagrees : Outcome.Agrees (w₁.Counterpart w₁') _ _ :=
      hverdict.agrees hlaidh hverdict' fun x y hx hy => ⟨h, type, hhands x hx, hhands' y hy⟩
    cases ht with
    | get => exact hagrees
    | require =>
      rw [perform_require_eq, perform_require_eq]
      exact hagrees.demanded type

end Stage

end

/-! ### Runs side by side -/

namespace Stage

variable {reg : Assembly → List Registration} {home : Nat → Option Keeper} {c : Census} {held : List Receipt}
variable {s s' : Stage} {t : Step} {source type : String} {h : Handle} {steps before xs ys after : List Step}

/-- The stages are parallel, and what is known of the instances and cells of runs is so in both worlds. -/
structure Mirrors (reg : Assembly → List Registration) (home : Nat → Option Keeper) (s s' : Stage) : Prop where
  parallel : s.Parallel s'
  left : s.world.Furnished reg home
  right : s'.world.Furnished reg home

theorem settled_of_handles_eq (hs : ∀ source h, s.handle? source = some h → h.Settled home)
    (hhandles : s'.handles = s.handles) (source : String) (g : Handle) (hg : s'.handle? source = some g) :
    g.Settled home := by
  refine hs source g ?_
  rwa [handle?, ← hhandles]

/-- What comes of a step does not depend on which instances there are. -/
theorem Valid.perform_mirrors (hs : s.Valid c held) (hm : s.Mirrors reg c.home s')
    (hc : c.Admits fun a => a.LaidOut (reg a) ∧ a.Acyclic) (ht : t.Operates fun a => a.LaidOut (reg a) ∧ a.Acyclic) :
    ∃ c' held', c'.Admits (fun a => a.LaidOut (reg a) ∧ a.Acyclic) ∧ (s.perform t).1.Valid c' held' ∧
      (s.perform t).1.Mirrors reg c'.home (s'.perform t).1 ∧
      s.world.Persists (s.perform t).1.world ∧ s'.world.Persists (s'.perform t).1.world ∧
      (s.perform t).2.Agrees ((s.perform t).1.world.Counterpart (s'.perform t).1.world) (s'.perform t).2 := by
  have hlaid : ∀ n k, c.home n = some k → k.assembly.LaidOut (reg k.assembly) := fun n k hk => (hc n k hk).1
  have hsettled : ∀ source h, s.handle? source = some h → h.Settled c.home := fun _ _ => hs.settled
  have hsettled' := settled_of_handles_eq hsettled hm.parallel.handles.symm
  obtain ⟨c', E, L, hadv⟩ := hs.perform (ht.mono orderly_of_laidOut)
  obtain ⟨hleft, hpersists⟩ := Stage.perform_furnished hsettled hm.left hlaid t
  obtain ⟨hright, hpersists'⟩ := Stage.perform_furnished hsettled' hm.right hlaid t
  suffices h : (s.perform t).1.Parallel (s'.perform t).1 ∧ Outcome.Agrees _ (s.perform t).2 (s'.perform t).2 from
    ⟨c', _, hadv.admits _ ht hc, hadv.valid,
      ⟨h.1, hleft.mono hadv.extension.home, hright.mono hadv.extension.home⟩, hpersists, hpersists', h.2⟩
  by_cases hrequest : t.IsRequest
  · obtain ⟨source, type, hasks⟩ := Step.isRequest_iff.mp hrequest
    refine ⟨?_, agrees_of_asks hlaid hm.parallel.handles hsettled hm.left hm.right hasks⟩
    cases hh : s.handle? source with
    | none =>
      rw [perform_of_handle?_eq_none hh hasks,
        perform_of_handle?_eq_none ((hm.parallel.handle? source).symm.trans hh) hasks]
      exact hm.parallel
    | some h =>
      have hh' := (hm.parallel.handle? source).symm.trans hh
      obtain ⟨w₁, hstage, hserves, -⟩ := serves_of_handle? hlaid hh (hs.settled hh) hm.left hasks
      obtain ⟨w₁', hstage', hserves', -⟩ := serves_of_handle? hlaid hh' (hs.settled hh) hm.right hasks
      rw [hstage, hstage']
      exact ⟨hm.parallel.handles, hm.parallel.world.serves hserves hserves'⟩
  · obtain ⟨hparallel, heq⟩ := perform_parallel hm.parallel hrequest
    exact ⟨hparallel, heq ▸ .same (hs.perform_ne_endless t)⟩

theorem Valid.run_mirrors (hs : s.Valid c held) (hm : s.Mirrors reg c.home s')
    (hc : c.Admits fun a => a.LaidOut (reg a) ∧ a.Acyclic)
    (hsteps : ∀ t ∈ steps, t.Operates fun a => a.LaidOut (reg a) ∧ a.Acyclic) :
    ∃ home', (s.run steps).Mirrors reg home' (s'.run steps) ∧
      s.world.Persists (s.run steps).world ∧ s'.world.Persists (s'.run steps).world ∧
      List.Forall₂ (Outcome.Agrees ((s.run steps).world.Counterpart (s'.run steps).world)) (s.outcomes steps)
        (s'.outcomes steps) := by
  induction steps generalizing c s s' held with
  | nil => exact ⟨c.home, hm, .refl _, .refl _, .nil⟩
  | cons t rest ih =>
    obtain ⟨c₁, held₁, hadmits, hvalid, hmirrors, hp, hp', hagrees⟩ :=
      hs.perform_mirrors hm hc (hsteps t List.mem_cons_self)
    obtain ⟨home', hlast, hq, hq', hrest⟩ := ih hvalid hmirrors hadmits fun u hu =>
      hsteps u (List.mem_cons_of_mem t hu)
    exact ⟨home', hlast, hp.trans hq, hp'.trans hq', .cons (hagrees.mono fun _ _ h => h.mono hq hq') hrest⟩

/-! ### Runs of requests -/

/-- The requests leave an instance of the service. -/
def Fills (reg : Assembly → List Registration) (s : Stage) (steps : List Step) (u : Site) : Prop :=
  ∃ t ∈ steps, ∃ source type h, t.Asks source type ∧ s.handle? source = some h ∧ h.Fills reg type u

/-- What requests do: the cells are filled of all that they come to, and nothing else happens. -/
structure Serves (reg : Assembly → List Registration) (home : Nat → Option Keeper) (s : Stage) (steps : List Step)
    (s' : Stage) : Prop where
  handles : s'.handles = s.handles
  grows : s.world.Grows s'.world fun _ => True
  fills : s.world.FillsUp s'.world (s.Fills reg steps)
  furnished : s'.world.Furnished reg home

theorem fills_cons {u : Site} : s.Fills reg (t :: steps) u ↔ s.Fills reg [t] u ∨ s.Fills reg steps u := by
  simp only [Fills, List.mem_cons, List.not_mem_nil, or_false, or_and_right, exists_or]

/-- One request, for what it asks. -/
theorem fills_singleton {u : Site} (ht : t.Asks source type) (hh : s.handle? source = some h) :
    h.Fills reg type u ↔ s.Fills reg [t] u := by
  constructor
  · exact fun hu => ⟨t, List.mem_singleton_self t, source, type, h, ht, hh, hu⟩
  · rintro ⟨_, ht', source', type', h', hasks, hh', hu⟩
    obtain rfl := List.mem_singleton.mp ht'
    obtain ⟨rfl, rfl⟩ := ht.unique hasks
    exact Option.some.inj (hh'.symm.trans hh) ▸ hu

section

variable (hlaid : ∀ n k, home n = some k → k.assembly.LaidOut (reg k.assembly))

include hlaid

theorem serves_perform (hs : ∀ source h, s.handle? source = some h → h.Settled home)
    (hw : s.world.Furnished reg home) (ht : t.IsRequest) : s.Serves reg home [t] (s.perform t).1 := by
  obtain ⟨source, type, hasks⟩ := Step.isRequest_iff.mp ht
  cases hh : s.handle? source with
  | none =>
    -- Nobody is asked, so nothing is filled.
    rw [perform_of_handle?_eq_none hh hasks]
    refine ⟨rfl, .refl _ _, .of_none ?_, hw⟩
    rintro u ⟨_, ht', source', type', h', hasks', hh', -⟩
    obtain rfl := List.mem_singleton.mp ht'
    rw [(hasks.unique hasks').1, hh] at hh'
    exact nomatch hh'
  | some h =>
    obtain ⟨w', hstage, hserves, -⟩ := serves_of_handle? hlaid hh (hs _ _ hh) hw hasks
    rw [hstage]
    exact ⟨rfl, hserves.grows.mono fun _ _ => trivial, hserves.fills.congr fun u => fills_singleton hasks hh,
      hserves.furnished⟩

/-- Requests in any order fill the cells of all that they come to. -/
theorem serves_run (hs : ∀ source h, s.handle? source = some h → h.Settled home) (hw : s.world.Furnished reg home)
    (hsteps : ∀ t ∈ steps, t.IsRequest) : s.Serves reg home steps (s.run steps) := by
  induction steps generalizing s with
  | nil =>
    refine ⟨rfl, .refl _ _, .of_none ?_, hw⟩
    rintro u ⟨t, ht, -⟩
    exact nomatch ht
  | cons t rest ih =>
    have hstep := serves_perform hlaid hs hw (hsteps t List.mem_cons_self)
    -- The first request leaves the handles as they are, so the others come to what they did before it.
    have hrest := ih (settled_of_handles_eq hs hstep.handles) hstep.furnished fun u hu =>
      hsteps u (List.mem_cons_of_mem t hu)
    refine ⟨hrest.handles.trans hstep.handles, hstep.grows.trans hrest.grows,
      (hstep.fills.trans hrest.fills).congr fun u => ?_, hrest.furnished⟩
    have hfills : (s.perform t).1.Fills reg rest u ↔ s.Fills reg rest u := by
      simp only [Fills, handle?, hstep.handles]
    rw [hfills, ← fills_cons]

end

/-- What comes of a step of a run comes of it after those before it. -/
theorem exists_of_mem_outcomes {o : Outcome} (h : (t, o) ∈ steps.zip (s.outcomes steps)) :
    ∃ early late, steps = early ++ t :: late ∧ o = ((s.run early).perform t).2 := by
  induction steps generalizing s with
  | nil => exact nomatch h
  | cons u rest ih =>
    rcases List.mem_cons.mp h with heq | h
    · obtain ⟨rfl, rfl⟩ := Prod.mk.inj heq
      exact ⟨[], rest, rfl, rfl⟩
    · obtain ⟨early, late, rfl, ho⟩ := ih h
      exact ⟨u :: early, late, rfl, ho⟩

/-- What was disposed of is in a cell, after every run. -/
theorem Valid.disposals_run (hs : s.Valid c held)
    (hkept : ∀ x ∈ s.world.disposals, ∃ n cell, s.world.cell? n cell = some x)
    (hsteps : ∀ t ∈ steps, t.Operates Assembly.Orderly) :
    ∀ x ∈ (s.run steps).world.disposals, ∃ n cell, (s.run steps).world.cell? n cell = some x := by
  induction steps generalizing c s held with
  | nil => exact hkept
  | cons t rest ih =>
    obtain ⟨c', ended, disposed, hadv⟩ := hs.perform (hsteps t List.mem_cons_self)
    refine ih hadv.valid (fun x hx => ?_) fun u hu => hsteps u (List.mem_cons_of_mem t hu)
    rw [hadv.retires.disposals_eq] at hx
    have hcell : ∃ n cell, s.world.cell? n cell = some x := by
      rcases List.mem_append.mp hx with hx | hx
      · exact hkept x hx
      · obtain ⟨k, -, hx⟩ := List.mem_flatMap.mp hx
        obtain ⟨cell, -, hcell⟩ := List.mem_filterMap.mp hx
        exact ⟨k.store, cell, hcell⟩
    obtain ⟨n, cell, hcell⟩ := hcell
    exact ⟨n, cell, hadv.retires.kept n cell x hcell⟩

/-- Whatever two runs of requests come to, the stages after them are the same but for the instances. -/
theorem Serves.parallel {s₁ s₂ : Stage} (h₁ : s.Serves reg home xs s₁) (h₂ : s.Serves reg home ys s₂)
    (hxy : ∀ t, t ∈ xs ↔ t ∈ ys) (hkept : ∀ x ∈ s.world.disposals, ∃ n cell, s.world.cell? n cell = some x) :
    s₁.Parallel s₂ where
  handles := h₁.handles.trans h₂.handles.symm
  world := by
    have hfills (u : Site) : s.Fills reg xs u ↔ s.Fills reg ys u := by simp only [Fills, hxy]
    refine ⟨?_, ?_, ?_, ?_, fun p => ?_, ?_⟩
    · rw [h₁.grows.nextStore, h₂.grows.nextStore]
    · rw [h₁.grows.nextScope, h₂.grows.nextScope]
    · rw [h₁.grows.ended, h₂.grows.ended]
    · rw [h₁.grows.calls, h₂.grows.calls]
    · rw [h₁.fills p, h₂.fills p]
      simp only [hfills]
    · rw [h₁.grows.disposals, h₂.grows.disposals]
      refine List.forall₂_same.mpr fun x hx => ?_
      obtain ⟨n, cell, hcell⟩ := hkept x hx
      exact ⟨n, cell, h₁.grows.kept n cell x hcell, h₂.grows.kept n cell x hcell⟩

/-! ### Requests in another order -/

/-- What holds after two runs of requests, and after whatever is done afterwards. -/
structure Commutes (s : Stage) (xs ys after : List Step) : Prop where
  verdicts : ∀ t o o', (t, o) ∈ xs.zip (s.outcomes xs) → (t, o') ∈ ys.zip (s.outcomes ys) →
    o.Agrees ((s.run xs).world.Counterpart (s.run ys).world) o'
  parallel : ((s.run xs).run after).Parallel ((s.run ys).run after)
  outcomes : List.Forall₂
    (Outcome.Agrees (((s.run xs).run after).world.Counterpart ((s.run ys).run after).world))
    ((s.run xs).outcomes after) ((s.run ys).outcomes after)
  closed : ((s.run xs).run after).close.Parallel ((s.run ys).run after).close
  renames : ∃ ρ, ((s.run xs).run after).world.Renames ρ ((s.run ys).run after).world ∧
    ∀ n cell x, s.world.cell? n cell = some x → ρ x x

section

variable (hlaid : ∀ n k, home n = some k → k.assembly.LaidOut (reg k.assembly))

include hlaid

/-- A step of a run of requests is made on the same handles, and what it found is there at the end. -/
theorem exists_stage_of_mem_outcomes {o : Outcome} (hs : ∀ source h, s.handle? source = some h → h.Settled home)
    (hw : s.world.Furnished reg home) (hsteps : ∀ t ∈ steps, t.IsRequest)
    (h : (t, o) ∈ steps.zip (s.outcomes steps)) : ∃ s₁ : Stage, s₁.handles = s.handles ∧
      s₁.world.Furnished reg home ∧ o = (s₁.perform t).2 ∧ (s₁.perform t).1.world.Persists (s.run steps).world := by
  obtain ⟨early, late, rfl, ho⟩ := exists_of_mem_outcomes h
  obtain ⟨hearly, hrest⟩ := List.forall_mem_append.mp hsteps
  obtain ⟨ht, hlate⟩ := List.forall_mem_cons.mp hrest
  have hfirst := serves_run hlaid hs hw hearly
  have hstep := serves_perform hlaid (settled_of_handles_eq hs hfirst.handles) hfirst.furnished ht
  have hhandles := hstep.handles.trans hfirst.handles
  have hlast := serves_run hlaid (settled_of_handles_eq hs hhandles) hstep.furnished hlate
  refine ⟨s.run early, hfirst.handles, hfirst.furnished, ho, ?_⟩
  rw [run_append, run_cons]
  exact hlast.grows.persists

theorem agrees_of_mem_outcomes {o o' : Outcome} (hs : ∀ source h, s.handle? source = some h → h.Settled home)
    (hw : s.world.Furnished reg home) (hxs : ∀ t ∈ xs, t.IsRequest) (hys : ∀ t ∈ ys, t.IsRequest)
    (h : (t, o) ∈ xs.zip (s.outcomes xs)) (h' : (t, o') ∈ ys.zip (s.outcomes ys)) :
    o.Agrees ((s.run xs).world.Counterpart (s.run ys).world) o' := by
  obtain ⟨s₁, hhandles, hw₁, rfl, hp⟩ := exists_stage_of_mem_outcomes hlaid hs hw hxs h
  obtain ⟨s₁', hhandles', hw₁', rfl, hp'⟩ := exists_stage_of_mem_outcomes hlaid hs hw hys h'
  obtain ⟨source, type, hasks⟩ := Step.isRequest_iff.mp (hxs t (List.of_mem_zip h).1)
  have hsettled := settled_of_handles_eq hs hhandles
  have hagrees := agrees_of_asks hlaid (hhandles.trans hhandles'.symm) hsettled hw₁ hw₁' hasks
  exact hagrees.mono fun _ _ hxy => hxy.mono hp hp'

end

/-- Requests commute: two runs of the same requests, in any order and number, end in the same way for every request and
lead to the same but for the names of instances, and so does whatever is done afterwards. -/
theorem requests_commute (hbefore : ∀ t ∈ before, t.Operates fun a => a.LaidOut (reg a) ∧ a.Acyclic)
    (hxs : ∀ t ∈ xs, t.IsRequest) (hxy : ∀ t, t ∈ xs ↔ t ∈ ys)
    (hafter : ∀ t ∈ after, t.Operates fun a => a.LaidOut (reg a) ∧ a.Acyclic) :
    (({} : Stage).run before).Commutes xs ys after := by
  obtain ⟨c, held, hadmits, hs, hw⟩ := furnished_run hbefore
  have hlaid : ∀ n k, c.home n = some k → k.assembly.LaidOut (reg k.assembly) := fun n k hk => (hadmits n k hk).1
  have hsettled : ∀ source h, (({} : Stage).run before).handle? source = some h → h.Settled c.home :=
    fun _ _ => hs.settled
  have hys : ∀ t ∈ ys, t.IsRequest := fun t ht => hxs t ((hxy t).mpr ht)
  have hkept := Stage.valid_empty.disposals_run (by simp) fun t ht => (hbefore t ht).mono orderly_of_laidOut
  have hleft := serves_run hlaid hsettled hw hxs
  have hright := serves_run hlaid hsettled hw hys
  -- After the requests the two runs go side by side.
  obtain ⟨c', held', hext, hadmits', hs', hw'⟩ := hs.furnished_run hw hadmits fun t ht => (hxs t ht).operates _
  have hmirrors : (_ : Stage).Mirrors reg c'.home _ :=
    ⟨hleft.parallel hright hxy hkept, hw', hright.furnished.mono hext.home⟩
  obtain ⟨home', hlast, hp, hp', houtcomes⟩ := hs'.run_mirrors hmirrors hadmits' hafter
  refine ⟨fun t o o' => agrees_of_mem_outcomes hlaid hsettled hw hxs hys, hlast.parallel, houtcomes,
    hlast.parallel.close, _, hlast.left.renames_twin hlast.right hlast.parallel.world.filled
      hlast.parallel.world.disposals, fun n cell x hx => ?_⟩
  exact .cell (hp.kept n cell x (hleft.grows.kept n cell x hx)) (hp'.kept n cell x (hright.grows.kept n cell x hx))

end Stage

/-- After a run of all kinds of steps, the session, the ticket and what is not there are asked for in two orders, and
one of them again. -/
theorem Stage.requests_commute_visits :
    (({} : Stage).run Sample.visits).Commutes
      [.get "hour" "Session", .require "office" "Session", .get "day" "Ticket"]
      [.get "day" "Ticket", .require "office" "Session", .get "hour" "Session", .get "day" "Ticket"]
      [.dispose "hour", .drop "day", .drop "hour", .drop "office"] := by
  refine Stage.requests_commute Sample.visits_operate (by simp [Step.IsRequest]) (fun t => ?_) (by simp [Step.Operates])
  simp only [List.mem_cons, List.not_mem_nil, or_false]
  tauto

end ServiceContainer
