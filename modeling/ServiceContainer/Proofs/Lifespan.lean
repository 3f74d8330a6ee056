import ServiceContainer.Proofs.Ownership
import ServiceContainer.Proofs.Requests

/-!
# The instances of scopes, from their making to their disposal

Every instance of a scoped service goes into a cell of its scoped provider, and every scoped provider is owned by one
scope from the step on that creates both. When that scope ends for the first time, all that is in the cells is disposed
of, and by the end of a run in which nothing is left that leads to a scope, it has ended. So an instance is disposed of
exactly once, if it was made before its scope ended: a handle that leads to the provider can outlive the scope, and what
is made through it then is never disposed of, because a scope disposes of its provider once.

The code of services is assumed to ask for the same types on every making, whatever the answers are
(`Assembly.requests`).

## Main definitions

* `World.KeptFor` — the provider and the registration that an instance is kept for
* `Stage.Owns` — the scope that owns a provider, at some point of a run
* `Stage.Lifespan` — when an instance was made, and how often it was disposed of

## Main statements

* `Stage.exists_owns` — every scoped provider that a handle asks is owned by a scope
* `Stage.Valid.count_eq_one` — what is kept when its scope has not ended yet is disposed of once
* `Stage.lifespan_of_run` — the fate of every instance of a scope
-/

namespace ServiceContainer

open Relation

/-! ### Runs and their turns -/

namespace Stage

section

variable {c : Census} {s : Stage} {held : List Receipt} {steps : List Step} {id : Nat}

/-- What holds after a run and not before it begins with one of the steps. -/
theorem exists_turn {p : Stage → Prop} (hbefore : ¬ p s) (hafter : p (s.run steps)) :
    ∃ before t after, steps = before ++ t :: after ∧ ¬ p (s.run before) ∧ p ((s.run before).perform t).1 := by
  induction steps generalizing s with
  | nil => exact absurd hafter hbefore
  | cons t rest ih =>
    by_cases hturn : p (s.perform t).1
    · exact ⟨[], t, rest, rfl, hbefore, hturn⟩
    · obtain ⟨before, u, after, rfl, hnot, hp⟩ := ih hturn hafter
      exact ⟨t :: before, u, after, rfl, hnot, hp⟩

/-- At the end of a run, every scope that was there leads from a handle or has ended. -/
theorem Valid.lost_run (hs : s.Valid c held) (hsteps : ∀ t ∈ steps, t.Operates Assembly.Orderly)
    (hid : id ∈ s.scopeIds ∨ id ∈ s.world.ended) : id ∈ (s.run steps).scopeIds ∨ id ∈ (s.run steps).world.ended := by
  induction steps generalizing c s held with
  | nil => exact hid
  | cons t rest ih =>
    obtain ⟨c', ended, disposed, hadv⟩ := hs.perform (hsteps t List.mem_cons_self)
    refine ih hadv.valid (fun u hu => hsteps u (List.mem_cons_of_mem t hu)) ?_
    rcases hid with hid | hid
    · exact hadv.lost id hid
    · rw [hadv.retires.ended_eq]
      exact .inr (List.mem_append_left _ hid)

/-- Instances and filled cells stay over a run. -/
theorem Valid.persists_run (hs : s.Valid c held) (hsteps : ∀ t ∈ steps, t.Operates Assembly.Orderly) :
    s.world.Persists (s.run steps).world := by
  induction steps generalizing c s held with
  | nil => exact .refl _
  | cons t rest ih =>
    obtain ⟨c', ended, disposed, hadv⟩ := hs.perform (hsteps t List.mem_cons_self)
    have hstep : s.world.Persists (s.perform t).1.world := ⟨hadv.retires.instances, hadv.retires.kept⟩
    exact hstep.trans (ih hadv.valid fun u hu => hsteps u (List.mem_cons_of_mem t hu))

/-- What a scope keeps that has not ended is disposed of once if the scope ends in the run. -/
theorem Valid.count_eq_one (hs : s.Valid c held) {k : Keeper} (howned : c.owned id = some k)
    (hlive : id ∉ s.world.ended) {x : Nat} (hx : x ∈ s.world.due k)
    (hsteps : ∀ t ∈ steps, t.Operates Assembly.Orderly) (hended : id ∈ (s.run steps).world.ended) :
    (s.run steps).world.disposals.count x = 1 := by
  induction steps generalizing c s held with
  | nil => exact absurd hended hlive
  | cons t rest ih =>
    obtain ⟨c', ended, disposed, hadv⟩ := hs.perform (hsteps t List.mem_cons_self)
    have hrest : ∀ u ∈ rest, u.Operates Assembly.Orderly := fun u hu => hsteps u (List.mem_cons_of_mem t hu)
    have howned' := hadv.extension.owned_eq_some howned
    by_cases hnow : id ∈ ended
    · -- The scope ends with this step, and nothing that it kept is disposed of again.
      have hmade := (hs.sound.madeBy_of_mem_due (hs.fits.owned_settled id k howned).2 hx).mono hadv.retires.instances
      have hid : id ∈ (s.perform t).1.world.ended := by
        rw [hadv.retires.ended_eq]
        exact List.mem_append_right _ hnow
      rw [run_cons, hadv.valid.count_run hid howned' hmade hrest]
      exact (hadv.count_of_owned hs hnow howned hx).2
    · have hlive' : id ∉ (s.perform t).1.world.ended := by
        rw [hadv.retires.ended_eq, List.mem_append, not_or]
        exact ⟨hlive, hnow⟩
      obtain ⟨cell, hcell, hid⟩ := List.mem_filterMap.mp hx
      exact ih hadv.valid howned' hlive'
        (List.mem_filterMap.mpr ⟨cell, hcell, hadv.retires.kept _ _ _ hid⟩) hrest hended

end

end Stage

/-! ### Every scoped provider has an owner -/

section

variable {c : Census} {h : Handle} {w : World} {k : Keeper}

theorem keepersOf_createScopes_owned {parts : List Handle}
    (ih : ∀ h ∈ parts, ∀ w : World, ∀ k ∈ (h.createScope w).1.keepers,
      k ∈ h.keepers ∨ ∃ x ∈ (h.createScope w).1.scopes, x.2.owned? = some k)
    (w : World) (hk : k ∈ keepersOf (createScopes parts w).1) :
    k ∈ keepersOf parts ∨ ∃ x ∈ scopesOf (createScopes parts w).1, x.2.owned? = some k := by
  induction parts generalizing w with
  | nil => exact nomatch hk
  | cons h rest ihrest =>
    rw [createScopes, keepersOf, List.mem_append] at hk
    rw [createScopes, keepersOf, scopesOf]
    rcases hk with hk | hk
    · rcases ih h List.mem_cons_self w k hk with hold | ⟨x, hx, howned⟩
      · exact .inl (List.mem_append_left _ hold)
      · exact .inr ⟨x, List.mem_append_left _ hx, howned⟩
    · rcases ihrest (fun g hg => ih g (List.mem_cons_of_mem h hg)) _ hk with hold | ⟨x, hx, howned⟩
      · exact .inl (List.mem_append_right _ hold)
      · exact .inr ⟨x, List.mem_append_right _ hx, howned⟩

theorem createScope_owned_composed {parts : List Handle}
    (ih : ∀ h ∈ parts, ∀ w : World, ∀ k ∈ (h.createScope w).1.keepers,
      k ∈ h.keepers ∨ ∃ x ∈ (h.createScope w).1.scopes, x.2.owned? = some k)
    (w : World) (hk : k ∈ ((Handle.composed parts).createScope w).1.keepers) :
    k ∈ (Handle.composed parts).keepers ∨
      ∃ x ∈ ((Handle.composed parts).createScope w).1.scopes, x.2.owned? = some k := by
  rcases keepersOf_createScopes_owned ih w hk with hold | ⟨x, hx, howned⟩
  · exact .inl hold
  · exact .inr ⟨x, List.mem_cons_of_mem _ hx, howned⟩

/-- A new scope asks providers that were asked before, and those that scopes in it own. -/
theorem Handle.Regular.createScope_owned (hh : h.Regular c) (w : World) (hk : k ∈ (h.createScope w).1.keepers) :
    k ∈ h.keepers ∨ ∃ x ∈ (h.createScope w).1.scopes, x.2.owned? = some k := by
  induction hh generalizing w k with
  | @root l _ isRoot =>
    obtain ⟨a, s, _ | n⟩ := l
    · obtain rfl := List.mem_singleton.mp hk
      exact .inr ⟨_, List.mem_cons_self, rfl⟩
    · exact nomatch isRoot
  | @scope l id owner _ inScope _ =>
    obtain ⟨a, s, _ | n⟩ := l
    · exact nomatch inScope
    · exact .inl hk
  | group _ _ _ ih => exact createScope_owned_composed (fun p hp w k hk => ih p hp w hk) w hk
  | composed _ ih => exact createScope_owned_composed (fun p hp w k hk => ih p hp w hk) w hk

namespace Stage

variable {s : Stage} {t : Step} {held : List Receipt} {steps more : List Step} {id : Nat}

theorem mem_put {y : String × Handle} {name : String} (hy : y ∈ (s.put name h).handles) :
    y ∈ s.handles ∨ y.2 = h := by
  rw [put_handles] at hy
  rcases List.mem_append.mp hy with hy | hy
  · exact .inl ((without_sublist s name).subset hy)
  · exact .inr (congrArg Prod.snd (List.mem_singleton.mp hy))

/-- The handles after a step are handles from before, or one new handle: a root provider, a new scope on a handle, or a
composition of handles. -/
inductive Introduces (s : Stage) : Handle → Prop where
  | old {y : String × Handle} (mem : y ∈ s.handles) : Introduces s y.2
  | root (a : Assembly) (n : Nat) : Introduces s (.root a n)
  | scope {y : String × Handle} (mem : y ∈ s.handles) : Introduces s (y.2.createScope s.world).1
  | composed {parts : List Handle} (mem : ∀ p ∈ parts, ∃ y ∈ s.handles, y.2 = p) : Introduces s (.composed parts)

theorem introduces_of_onHandle {name : String} {f : Handle → Stage × Outcome}
    (hf : ∀ h, (name, h) ∈ s.handles → ∀ y ∈ (f h).1.handles, s.Introduces y.2) :
    ∀ y ∈ (s.onHandle name f).1.handles, s.Introduces y.2 := by
  rw [onHandle]
  split
  next h hh => exact hf h (handle?_eq_some hh)
  next => exact fun y hy => .old hy

theorem introduces_of_put {w : World} {name : String} (hh : s.Introduces h) :
    ∀ y ∈ ((Stage.mk w s.handles).put name h).handles, s.Introduces y.2 := by
  intro y hy
  rcases mem_put hy with hy | rfl
  · exact .old hy
  · exact hh

theorem introduces_of_subset {s' : Stage} (h : s'.handles ⊆ s.handles) : ∀ y ∈ s'.handles, s.Introduces y.2 :=
  fun _ hy => .old (h hy)

theorem perform_introduces {admitted : Assembly → Prop} (ht : t.Operates admitted) :
    ∀ y ∈ (s.perform t).1.handles, s.Introduces y.2 := by
  have hsame {s' : Stage} (h : s'.handles = s.handles) := introduces_of_subset (s := s) fun _ hy => h ▸ hy
  have hdrop (name : String) (h : Handle) : ∀ y ∈ (s.drop name h).handles, s.Introduces y.2 :=
    introduces_of_subset (without_sublist s name).subset
  cases t with
  | root a name => exact introduces_of_put (.root a _)
  | clone source name =>
    refine introduces_of_onHandle fun h hh => ?_
    cases h with
    | root a n => exact introduces_of_put (.root a n)
    | _ => exact hsame rfl
  | scope source name => exact introduces_of_onHandle fun h hh => introduces_of_put (.scope hh)
  | innerScope source name =>
    refine introduces_of_onHandle fun h hh => ?_
    cases h with
    | scope id owner inner =>
      -- A scope passes the creation of scopes on to what is inside.
      have hscope := Introduces.scope hh
      rw [Handle.createScope] at hscope
      exact introduces_of_put hscope
    | _ => exact hsame rfl
  | compose sources name =>
    rw [perform]
    split
    next taken parts htake =>
      obtain ⟨-, hsub, hparts⟩ := takeAll?_eq_some htake
      intro y hy
      rcases mem_put hy with hy | heq
      · exact .old (hsub.subset hy)
      · exact heq ▸ .composed hparts
    next => exact hsame rfl
  | get source type => exact introduces_of_onHandle fun h _ => hsame (request_handles s _)
  | require source type => exact introduces_of_onHandle fun h _ => hsame (request_handles s _)
  | dispose source => exact introduces_of_onHandle fun h _ => hsame rfl
  | finish source =>
    refine introduces_of_onHandle fun h _ => ?_
    cases h with
    | scope id owner inner =>
      dsimp only
      split
      · exact hsame rfl
      · exact hdrop source _
    | _ => exact hsame rfl
  | drop source => exact introduces_of_onHandle fun h _ => hdrop source h
  | inspect source => exact introduces_of_onHandle fun h _ => by cases h <;> exact hsame rfl
  | _ => exact ht.elim

theorem Valid.owned?_of_mem (hs : s.Valid c held) {y : String × Handle} (hy : y ∈ s.handles) {x : Nat × Handle}
    (hx : x ∈ y.2.scopes) : s.owned? x.1 = x.2.owned? := by
  rw [hs.owned?_eq (mem_scopeIds hy (List.mem_map_of_mem hx)), (hs.regular y hy).owned?_eq hx]

theorem mem_scopeIds_of_owned? (h : s.owned? id = some k) : id ∈ s.scopeIds := by
  obtain ⟨x, hx, -⟩ := Option.bind_eq_some_iff.mp h
  have hid := List.find?_some hx
  rw [← beq_iff_eq.mp hid]
  exact List.mem_map_of_mem (List.mem_of_find?_eq_some hx)

/-- At some point of the run from nothing, a handle leads to the scope, which owns the provider. -/
def Owns (steps : List Step) (id : Nat) (k : Keeper) : Prop :=
  ∃ early, early <+: steps ∧ (({} : Stage).run early).owned? id = some k

theorem Owns.mono (h : Owns steps id k) (hsteps : steps <+: more) : Owns more id k :=
  let ⟨early, hearly, howned⟩ := h
  ⟨early, hearly.trans hsteps, howned⟩

/-- Every scoped provider that a handle asks is owned by a scope. -/
theorem exists_owns (hsteps : ∀ t ∈ steps, t.Operates Assembly.Orderly) {y : String × Handle}
    (hy : y ∈ (({} : Stage).run steps).handles) (hk : k ∈ y.2.keepers) (hscope : k.scope.isSome = true) :
    ∃ id, Owns steps id k := by
  induction steps using List.reverseRecOn generalizing y with
  | nil => exact nomatch hy
  | append_singleton before t ih =>
    rw [List.forall_mem_append, List.forall_mem_singleton] at hsteps
    obtain ⟨c, -, hs⟩ := valid_run (fun _ h => h) hsteps.1
    obtain ⟨c', ended, disposed, hadv⟩ := hs.perform hsteps.2
    rw [run_append, run_cons, run_nil] at hy
    have hmono := fun {id : Nat} (h : Owns before id k) => h.mono (List.prefix_append before [t])
    have hintroduces := perform_introduces hsteps.2 y hy
    generalize hg : y.2 = g at hintroduces hk
    cases hintroduces with
    | old hmem => exact (ih hsteps.1 hmem hk).imp fun _ => hmono
    | root a n =>
      obtain rfl := List.mem_singleton.mp hk
      exact nomatch hscope
    | scope hmem =>
      rcases (hs.regular _ hmem).createScope_owned _ hk with hold | ⟨x, hx, howned⟩
      · exact (ih hsteps.1 hmem hold).imp fun _ => hmono
      · -- The scope that owns a new provider is in the new handle.
        refine ⟨x.1, _, List.prefix_refl _, ?_⟩
        rw [run_append, run_cons, run_nil, hadv.valid.owned?_of_mem hy (hg ▸ hx), howned]
    | composed hmem =>
      rw [Handle.keepers, keepersOf_eq] at hk
      obtain ⟨p, hp, hk⟩ := List.mem_flatMap.mp hk
      obtain ⟨z, hz, rfl⟩ := hmem p hp
      exact (ih hsteps.1 hz hk).imp fun _ => hmono

end Stage

end

/-! ### Instances and the cells of their scopes -/

section

variable {reg : Assembly → List Registration} {home : Nat → Option Keeper} {w : World} {s t : Site} {k : Keeper}
variable {r q : Registration} {x : Nat}

/-- The instance was made for a scoped service, and the provider keeps it for that service. -/
structure World.KeptFor (reg : Assembly → List Registration) (w : World) (x : Nat) (k : Keeper) (r : Registration) :
    Prop where
  madeFor : w.MadeFor reg x k r
  lifetime : r.lifetime = .scoped
  kept : r.cellName?.bind (w.cell? k.store) = some x

/-- The providers that made the instance. -/
def Instance.keepers : Instance → List Keeper
  | .built _ maker _ _ _ => maker.keepers
  | .given _ _ => []

theorem Site.Genuine.exists_registers (hs : s.Genuine) (hlaid : s.keeper.assembly.LaidOut (reg s.keeper.assembly)) :
    ∃ r, s.Registers reg r := by
  obtain ⟨i, hdelivers, -, hmem⟩ := hs.exists_deliveredBy hlaid
  refine ⟨i.registration, hmem, hdelivers.registers.key, ?_⟩
  rw [Site.place?, Option.map_eq_none_iff]
  exact hdelivers.registers.cell?_eq_none

/-- A registration is the one of its service. -/
theorem Site.Registers.unique (h : s.Registers reg r) (h' : s.Registers reg q)
    (hlaid : s.keeper.assembly.LaidOut (reg s.keeper.assembly)) : r = q :=
  List.inj_on_of_nodup_map hlaid.keys_nodup (mem_of_mem_registrationsOf h.mem) (mem_of_mem_registrationsOf h'.mem)
    (by rw [← h.key, h'.key])

namespace World

theorem MadeFor.madeBy (h : w.MadeFor reg x k r) : w.MadeBy k x := by
  obtain ⟨-, construct, arguments, answers, -, hx⟩ := h
  exact ⟨_, construct, arguments, answers, hx⟩

theorem MadeFor.lt (h : w.MadeFor reg x k r) : x < w.instances.length := by
  obtain ⟨-, _, _, _, -, hx⟩ := h
  exact (List.getElem?_eq_some_iff.mp hx).1

theorem getElem?_of_prefix {w' : World} (hinstances : w.instances <+: w'.instances) (hx : x < w.instances.length) :
    w.instances[x]? = w'.instances[x]? := by
  obtain ⟨more, hmore⟩ := hinstances
  rw [← hmore, List.getElem?_append_left hx]

theorem keeper_eq_of_made (hmade : s.Made w x) (hk : w.MadeBy k x) : s.keeper = k := by
  obtain ⟨_, _, _, hx⟩ := hmade
  exact madeBy_unique ⟨_, _, _, _, hx⟩ hk

variable (hlaid : ∀ n k, home n = some k → k.assembly.LaidOut (reg k.assembly))

include hlaid

/-- An instance of a scope is in the cell of its service. -/
theorem Furnished.exists_place (hw : w.Furnished reg home) (hx : x < w.instances.length) (hk : w.MadeBy k x)
    (hscope : k.scope.isSome = true) : ∃ (s : Site) (r : Registration) (cell : String), s.keeper = k ∧ s.Genuine ∧
      k.Settled home ∧ s.Made w x ∧ s.Registers reg r ∧ r.cellName? = some cell ∧ s.place? = some (k.store, cell) ∧
      w.cell? k.store cell = some x := by
  obtain ⟨s, hs, hsettled, hmade, hcell⟩ := hw.stocked.housed x hx
  obtain rfl := keeper_eq_of_made hmade hk
  have hlaids := hlaid _ _ hsettled.own
  obtain ⟨r, hr⟩ := hs.exists_registers hlaids
  have hplace := hr.place?_eq hs hlaids
  -- Only transient services have no cell.
  have hkept : s.place? ≠ none := by
    rw [ne_eq, hr.place?_eq_none, hr.scoped_iff.mpr hscope]
    decide
  cases hname : r.cellName? with
  | none =>
    rw [hname] at hplace
    exact absurd hplace hkept
  | some cell =>
    rw [hname, Option.map_some] at hplace
    exact ⟨s, r, cell, rfl, hs, hsettled, hmade, hr, hname, hplace, hcell _ _ hplace⟩

/-- An instance of a scope is kept for one registration. -/
theorem Furnished.existsUnique_keptFor (hw : w.Furnished reg home) (hx : w.MadeFor reg x k r)
    (hscoped : r.lifetime = .scoped) : ∃! q, w.KeptFor reg x k q := by
  have hscope := hx.scoped_iff.mp hscoped
  obtain ⟨s, q, cell, rfl, hs, hsettled, hmade, hq, hname, hplace, hcell⟩ :=
    hw.exists_place hlaid hx.lt hx.madeBy hscope
  refine ⟨q, ⟨hw.wired.madeFor_of_made hlaid hs hsettled hq hmade, hq.scoped_iff.mpr hscope, ?_⟩, fun p hp => ?_⟩
  · rw [hname, Option.bind_some, hcell]
  · -- One cell holds the instance, one service has the cell, and one registration is that of the service.
    obtain ⟨other, hother, hcell'⟩ := Option.bind_eq_some_iff.mp hp.kept
    obtain ⟨-, heq⟩ := hw.sound.injective _ _ _ _ _ hcell hcell'
    subst heq
    have hlaids := hlaid _ _ hsettled.own
    obtain ⟨t, hkeeper, ht, hregisters⟩ := Keeper.exists_registers hlaids hp.madeFor.1
    have hplace' : t.place? = some (s.keeper.store, cell) := by
      rw [hregisters.place?_eq ht (hkeeper ▸ hlaids), hother, hkeeper, Option.map_some]
    obtain rfl := Site.eq_of_place? hs hsettled ht (hkeeper ▸ hsettled) hplace hplace'
    exact hregisters.unique hq hlaids

end World

theorem Handle.Reaches.settled {h : Handle} {type : String} (hreach : h.Reaches type t) (hh : h.Settled home) :
    t.Genuine ∧ t.keeper.Settled home := by
  obtain ⟨s, hserving, hst⟩ := hreach
  induction hst with
  | refl => exact hh.of_serving? hserving
  | tail _ hneeds ih => exact hneeds.settled ih.2

theorem Keeper.serving?_scope {type : String} (hs : k.serving? type = some s) :
    s.keeper = k ∨ s.keeper.scope = none := by
  obtain ⟨-, hkeeper | hkeeper, -⟩ := Keeper.serving?_eq_some hs
  · exact .inl hkeeper
  · exact .inr (congrArg Keeper.scope hkeeper)

/-- A request comes to services of scoped providers that the handle asks. -/
theorem Handle.Reaches.mem_keepers {h : Handle} {type : String} (hreach : h.Reaches type t)
    (hscope : t.keeper.scope.isSome = true) : t.keeper ∈ h.keepers := by
  obtain ⟨s, hserving, hst⟩ := hreach
  obtain ⟨k, hk, hs⟩ := List.exists_of_findSome?_eq_some hserving
  -- On the way to the service, the provider stays or gives way to its root, which is not a scoped one.
  have hkeeper : t.keeper = k ∨ t.keeper.scope = none := by
    clear hscope
    induction hst with
    | refl => exact Keeper.serving?_scope hs
    | tail _ hneeds ih =>
      obtain ⟨_, -, hserving'⟩ := hneeds
      rcases Keeper.serving?_scope hserving' with heq | hnone
      · exact heq ▸ ih
      · exact .inr hnone
  rcases hkeeper with rfl | hnone
  · exact hk
  · exact nomatch hnone ▸ hscope

end

/-! ### Runs -/

namespace Stage

section

variable {reg : Assembly → List Registration} {steps before after : List Step} {t : Step} {id id' : Nat} {k : Keeper}
variable {x : Nat} {r : Registration}

/-- At the end of a run, a census knows the owner of a provider, and the world is furnished. -/
theorem Owns.exists_census (h : Owns steps id k)
    (hsteps : ∀ t ∈ steps, t.Operates fun a => a.LaidOut (reg a) ∧ a.Acyclic) :
    ∃ c : Census, ∃ held, c.Admits (fun a => a.LaidOut (reg a) ∧ a.Acyclic) ∧ (({} : Stage).run steps).Valid c held ∧
      (({} : Stage).run steps).world.Furnished reg c.home ∧ c.owned id = some k ∧
      (id ∈ (({} : Stage).run steps).scopeIds ∨ id ∈ (({} : Stage).run steps).world.ended) := by
  obtain ⟨early, ⟨late, rfl⟩, howned⟩ := h
  rw [List.forall_mem_append] at hsteps
  obtain ⟨c, held, hadmits, hvalid, hw⟩ := furnished_run hsteps.1
  have hid := mem_scopeIds_of_owned? howned
  rw [hvalid.owned?_eq hid] at howned
  obtain ⟨c', held', hext, hadmits', hvalid', hw'⟩ := hvalid.furnished_run hw hadmits hsteps.2
  have hlost := hvalid.lost_run (fun u hu => (hsteps.2 u hu).mono orderly_of_laidOut) (.inl hid)
  rw [run_append]
  exact ⟨c', held', hadmits', hvalid', hw', hext.owned_eq_some howned, hlost⟩

theorem owner_eq {late : List Step} (hearly : before <+: late)
    (howned : (({} : Stage).run before).owned? id = some k) (howned' : (({} : Stage).run late).owned? id' = some k)
    (hlate : ∀ t ∈ late, t.Operates fun a => a.LaidOut (reg a) ∧ a.Acyclic) : id = id' := by
  -- The census at the later point knows both scopes, and has different providers for different scopes.
  obtain ⟨c, held, -, hvalid, -, hknown, -⟩ := Owns.exists_census ⟨before, hearly, howned⟩ hlate
  rw [hvalid.owned?_eq (mem_scopeIds_of_owned? howned')] at howned'
  exact hvalid.fits.owned_injective _ _ _ hknown howned'

/-- A provider has one owner. -/
theorem Owns.unique (h : Owns steps id k) (h' : Owns steps id' k)
    (hsteps : ∀ t ∈ steps, t.Operates fun a => a.LaidOut (reg a) ∧ a.Acyclic) : id = id' := by
  obtain ⟨early, hearly, howned⟩ := h
  obtain ⟨early', hearly', howned'⟩ := h'
  rcases List.prefix_or_prefix_of_prefix hearly hearly' with hle | hle
  · exact owner_eq hle howned howned' fun t ht => hsteps t (hearly'.subset ht)
  · exact (owner_eq hle howned' howned fun t ht => hsteps t (hearly.subset ht)).symm

/-- The step makes the instance, and neither ends a scope nor disposes of anything. -/
structure Makes (s : Stage) (t : Step) (x : Nat) (k : Keeper) : Prop where
  request : t.IsRequest
  unmade : s.world.instances.length ≤ x
  ended : (s.perform t).1.world.ended = s.world.ended
  disposals : (s.perform t).1.world.disposals = s.world.disposals
  asked : ∃ y ∈ s.handles, k ∈ y.2.keepers

/-- An instance of a scope is made when it gets into its cell. -/
theorem Valid.makes {c : Census} {s : Stage} {held : List Receipt} {cell : String} (hs : s.Valid c held)
    (hw : s.world.Furnished reg c.home) (hlaid : ∀ n k, c.home n = some k → k.assembly.LaidOut (reg k.assembly))
    (hnot : s.world.cell? k.store cell ≠ some x) (hnow : (s.perform t).1.world.cell? k.store cell = some x)
    (hk : (s.perform t).1.world.MadeBy k x) (hscope : k.scope.isSome = true) : s.Makes t x k := by
  have ht : t.IsRequest := by
    by_contra ht
    have hkeeps := perform_keeps (s := s) ht
    rw [World.cell?, hkeeps.cells] at hnow
    exact hnot hnow
  obtain ⟨source, type, hasks⟩ := Step.isRequest_iff.mp ht
  cases hh : s.handle? source with
  | none =>
    rw [perform_of_handle?_eq_none hh hasks] at hnow
    exact absurd hnow hnot
  | some h =>
    obtain ⟨w', hstage, hserves, -⟩ := serves_of_handle? hlaid hh (hs.settled hh) hw hasks
    have hworld : (s.perform t).1.world = w' := by rw [hstage]
    rw [hworld] at hnow hk
    -- The cell was empty, since what is in a cell stays there.
    have hnone : s.world.cell? k.store cell = none := by
      by_contra hfilled
      obtain ⟨y, hy⟩ := Option.ne_none_iff_exists'.mp hfilled
      exact hnot (hy.trans ((hserves.grows.kept _ _ _ hy).symm.trans hnow))
    -- The cell is the one of a service that the request comes to, and so of a provider that the handle asks.
    obtain ⟨u, hreach, hplace⟩ := hserves.grows.filled _ _ _ hnone hnow
    obtain ⟨hgenuine, hsettled⟩ := hreach.settled (hs.settled hh)
    obtain rfl := World.keeper_eq_of_made (hserves.furnished.wired.made_of_cell? hgenuine hsettled hplace hnow) hk
    refine ⟨ht, ?_, by rw [hworld, hserves.grows.ended], by rw [hworld, hserves.grows.disposals],
      _, handle?_eq_some hh, hreach.mem_keepers hscope⟩
    -- An older instance of the provider was in a cell already, and in no other than this one.
    by_contra hlt
    have hold : s.world.MadeBy u.keeper x := by
      rw [World.MadeBy, World.getElem?_of_prefix hserves.grows.instances (Nat.lt_of_not_le hlt)]
      exact hk
    obtain ⟨-, -, other, -, -, -, -, -, -, -, hcell⟩ := hw.exists_place hlaid (Nat.lt_of_not_le hlt) hold hscope
    obtain ⟨-, heq⟩ := hserves.furnished.sound.injective _ _ _ _ _ (hserves.grows.kept _ _ _ hcell) hnow
    exact hnot (heq ▸ hcell)

/-- When an instance of a provider was made, and how often it was disposed of until the end of the run: once if the
scope that owns the provider had not ended when it was made, and never otherwise. -/
structure Lifespan (steps : List Step) (x : Nat) (k : Keeper) (before : List Step) (t : Step) (after : List Step)
    (id : Nat) : Prop where
  steps_eq : steps = before ++ t :: after
  makes : (({} : Stage).run before).Makes t x k
  made : x < (({} : Stage).run (before ++ [t])).world.instances.length
  owner : Owns before id k
  sole : ∀ other, Owns steps other k → other = id
  count : (({} : Stage).run steps).world.disposals.count x =
    if id ∈ (({} : Stage).run before).world.ended then 0 else 1

/-- The end of a run from the making of an instance on. -/
theorem Makes.count {c : Census} {s : Stage} {held : List Receipt} {cell : String} (h : s.Makes t x k)
    (hs : s.Valid c held) (hlaid : k.assembly.LaidOut (reg k.assembly)) (ht : t.Operates Assembly.Orderly)
    (hafter : ∀ u ∈ after, u.Operates Assembly.Orderly) (howned : c.owned id = some k)
    (hid : id ∈ s.scopeIds ∨ id ∈ s.world.ended) (hend : ((s.perform t).1.run after).scopeIds = [])
    (hr : r ∈ registrationsOf (reg k.assembly) k.kind) (hdisposable : r.disposable = true)
    (hname : r.cellName? = some cell) (hcell : (s.perform t).1.world.cell? k.store cell = some x)
    (hmade : (s.perform t).1.world.MadeBy k x) :
    ((s.perform t).1.run after).world.disposals.count x = if id ∈ s.world.ended then 0 else 1 := by
  obtain ⟨c', ended, disposed, hadv⟩ := hs.perform ht
  have howned' := hadv.extension.owned_eq_some howned
  split
  next hended =>
    -- The scope has disposed of its provider already, and does so once.
    rw [hadv.valid.count_run (h.ended ▸ hended) howned' hmade hafter, h.disposals, List.count_eq_zero]
    exact fun hmem => absurd (hs.disposals_lt x hmem) (Nat.not_lt.mpr h.unmade)
  next hlive =>
    -- The instance waits in its cell for the end of the scope, which comes before the end of the run.
    have hdue : x ∈ (s.perform t).1.world.due k := by
      rw [World.due_eq hlaid]
      exact List.mem_filterMap.mpr ⟨r, List.mem_filter.mpr ⟨hr, hdisposable⟩, by rw [hname, Option.bind_some, hcell]⟩
    have hlost : id ∈ (s.perform t).1.scopeIds ∨ id ∈ (s.perform t).1.world.ended := by
      rcases hid with hid | hid
      · exact hadv.lost id hid
      · exact absurd hid hlive
    refine hadv.valid.count_eq_one howned' (h.ended ▸ hlive) hdue hafter ?_
    have hlast := hadv.valid.lost_run hafter hlost
    rw [hend] at hlast
    exact hlast.resolve_left List.not_mem_nil

theorem exists_lifespan (hsteps : ∀ t ∈ steps, t.Operates fun a => a.LaidOut (reg a) ∧ a.Acyclic)
    (hend : (({} : Stage).run steps).scopeIds = []) (hx : (({} : Stage).run steps).world.KeptFor reg x k r)
    (hdisposable : r.disposable = true) : ∃ before t after id, Lifespan steps x k before t after id := by
  obtain ⟨cell, hname, hcell⟩ := Option.bind_eq_some_iff.mp hx.kept
  have hscope := hx.madeFor.scoped_iff.mp hx.lifetime
  obtain ⟨before, t, after, rfl, hnot, hnow⟩ :=
    exists_turn (s := {}) (p := fun s => s.world.cell? k.store cell = some x) nofun hcell
  obtain ⟨hbefore, hrest⟩ := List.forall_mem_append.mp hsteps
  obtain ⟨ht, hafter⟩ := List.forall_mem_cons.mp hrest
  have ht' := ht.mono orderly_of_laidOut
  have hafter' : ∀ u ∈ after, u.Operates Assembly.Orderly := fun u hu => (hafter u hu).mono orderly_of_laidOut
  rw [run_append, run_cons] at hend hx
  -- What the instance shows of itself at the end, it showed when it got into its cell.
  have hthen {c : Census} {held : List Receipt} (hs : (({} : Stage).run before).Valid c held)
      (hw : (({} : Stage).run before).world.Furnished reg c.home)
      (hadmits : c.Admits fun a => a.LaidOut (reg a) ∧ a.Acyclic) :
      x < ((({} : Stage).run before).perform t).1.world.instances.length ∧
        ((({} : Stage).run before).perform t).1.world.MadeBy k x ∧ (({} : Stage).run before).Makes t x k := by
    obtain ⟨c', ended, disposed, hadv⟩ := hs.perform ht'
    have hlaid : ∀ n l, c.home n = some l → l.assembly.LaidOut (reg l.assembly) := fun n l hl => (hadmits n l hl).1
    have hlt := (hs.perform_furnished hw hlaid t).sound.cell?_lt hnow
    have hmade : ((({} : Stage).run before).perform t).1.world.MadeBy k x := by
      rw [World.MadeBy, World.getElem?_of_prefix (hadv.valid.persists_run hafter').instances hlt]
      exact hx.madeFor.madeBy
    exact ⟨hlt, hmade, hs.makes hw hlaid hnot hnow hmade hscope⟩
  obtain ⟨c, held, hadmits, hs, hw⟩ := furnished_run hbefore
  obtain ⟨hlt, hmade, hmakes⟩ := hthen hs hw hadmits
  obtain ⟨y, hy, hk⟩ := hmakes.asked
  obtain ⟨id, howner⟩ := exists_owns (fun u hu => (hbefore u hu).mono orderly_of_laidOut) hy hk hscope
  refine ⟨before, t, after, id, rfl, hmakes, ?_, howner, fun other hother => ?_, ?_⟩
  · rw [run_append, run_cons, run_nil]
    exact hlt
  · exact hother.unique (howner.mono (List.prefix_append before _)) hsteps
  · obtain ⟨c₁, held₁, hadmits₁, hs₁, -, howned, hid⟩ := howner.exists_census hbefore
    have hlaid := (hadmits₁ _ _ (hs₁.fits.owned_settled id k howned).2.own).1
    rw [run_append, run_cons]
    exact hmakes.count hs₁ hlaid ht' hafter' howned hid hend hx.madeFor.1 hdisposable hname hnow hmade

end

/-- In a run after which nothing leads to a scope, every instance of a scoped service is kept for one registration. If
the service is disposable, the instance was disposed of exactly once where the scope that owns its provider had not
ended when the instance was made, and never otherwise. -/
theorem lifespan_of_run {reg : Assembly → List Registration} {steps : List Step}
    (hsteps : ∀ t ∈ steps, t.Operates fun a => a.LaidOut (reg a) ∧ a.Acyclic)
    (hend : (({} : Stage).run steps).scopeIds = []) :
    (∀ x k r, (({} : Stage).run steps).world.MadeFor reg x k r → r.lifetime = .scoped →
      ∃! q, (({} : Stage).run steps).world.KeptFor reg x k q) ∧
    ∀ x k r, (({} : Stage).run steps).world.KeptFor reg x k r → r.disposable = true →
      ∃ before t after id, Lifespan steps x k before t after id := by
  refine ⟨fun x k r hx hr => ?_, fun x k r hx hdisposable => exists_lifespan hsteps hend hx hdisposable⟩
  obtain ⟨c, held, hadmits, hvalid, hw⟩ := furnished_run hsteps
  exact hw.existsUnique_keptFor (fun n l hl => (hadmits n l hl).1) hx hr

end Stage

namespace Sample

/-- The session is asked for through two scopes, through one before it is dropped and through the other after it was
disposed of. -/
def lateVisit : List Step :=
  [.root office "office", .scope "office" "day", .get "day" "Session", .drop "day", .scope "office" "night",
    .dispose "night", .get "night" "Session", .drop "night", .drop "office"]

theorem lateVisit_operate : ∀ t ∈ lateVisit, t.Operates fun a => a.LaidOut trio ∧ a.Acyclic := by
  simp [lateVisit, Step.Operates, office_laidOut, office_acyclic]

theorem lateVisit_scopeIds : (({} : Stage).run lateVisit).scopeIds = [] := by decide +kernel

theorem session_of_mem_trio {r : Registration} (hr : r ∈ trio) (hscoped : r.lifetime = .scoped) : r = session := by
  simp only [trio, List.mem_cons, List.not_mem_nil, or_false] at hr
  rcases hr with rfl | rfl | rfl
  · cases hscoped
  · cases hscoped
  · rfl

/-- The last instance of the run is the session of the second scope, after the clock and the session of the first. -/
theorem lateVisit_madeFor : ∃ k, (({} : Stage).run lateVisit).world.MadeFor (fun _ => trio) 2 k session := by
  obtain ⟨c, held, hadmits, -, hw⟩ := Stage.furnished_run lateVisit_operate
  have hlt : 2 < (({} : Stage).run lateVisit).world.instances.length := by decide +kernel
  obtain ⟨k, r, hx⟩ : ∃ k r, (({} : Stage).run lateVisit).world.MadeFor (fun _ => trio) 2 k r :=
    hw.wired.exists_madeFor (fun n l hl => (hadmits n l hl).1) hlt
  have hscopes : ((({} : Stage).run lateVisit).world.instances[2]?.map fun i => i.keepers.map Keeper.scope) =
      some [some 2] := by decide +kernel
  obtain ⟨hr, construct, arguments, answers, hmakes, hinstance⟩ := id hx
  rw [hinstance, Option.map_some, Instance.keepers, Keeper.keepers_handle, List.map_singleton, Option.some.injEq,
    List.cons.injEq] at hscopes
  have hscoped := hx.scoped_iff.mpr (by rw [hscopes.1]; rfl)
  exact ⟨k, session_of_mem_trio (mem_of_mem_registrationsOf hr) hscoped ▸ hx⟩

end Sample

/-- A session that is asked for after its scope was disposed of escapes disposal, although in the end every handle has
been dropped. -/
theorem Stage.not_forall_count_eq_one : ¬ ∀ (reg : Assembly → List Registration) (steps : List Step),
    (∀ t ∈ steps, t.Operates fun a => a.LaidOut (reg a) ∧ a.Acyclic) → (({} : Stage).run steps).scopeIds = [] →
    ∀ x k r, (({} : Stage).run steps).world.MadeFor reg x k r → r.lifetime = .scoped → r.disposable = true →
      (({} : Stage).run steps).world.disposals.count x = 1 := by
  intro hclaim
  obtain ⟨k, hx⟩ := Sample.lateVisit_madeFor
  have honly : (({} : Stage).run Sample.lateVisit).world.disposals = [1] := by decide +kernel
  have hcount := hclaim _ _ Sample.lateVisit_operate Sample.lateVisit_scopeIds 2 k _ hx rfl rfl
  rw [honly] at hcount
  exact nomatch hcount

theorem Stage.lifespan_of_lateVisit :
    (∀ x k r, (({} : Stage).run Sample.lateVisit).world.MadeFor (fun _ => Sample.trio) x k r → r.lifetime = .scoped →
      ∃! q, (({} : Stage).run Sample.lateVisit).world.KeptFor (fun _ => Sample.trio) x k q) ∧
    ∀ x k r, (({} : Stage).run Sample.lateVisit).world.KeptFor (fun _ => Sample.trio) x k r → r.disposable = true →
      ∃ before t after id, Stage.Lifespan Sample.lateVisit x k before t after id :=
  Stage.lifespan_of_run Sample.lateVisit_operate Sample.lateVisit_scopeIds

end ServiceContainer
