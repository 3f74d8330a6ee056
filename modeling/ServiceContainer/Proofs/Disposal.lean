import ServiceContainer.Proofs.Run

/-!
# What is disposed of, and when

The end of scopes over whole runs. A scope that was created on a root provider owns a scoped provider; when it ends for
the first time, the instances in the cells of the disposable services of that provider are disposed of, in the order of
the registrations, and never again. Scopes that own no provider dispose of nothing, and root providers are disposed of
only when they are told to.

Which instances there are depends on what the code of services asks for: the same types on every making, as is assumed
with `Assembly.requests`, whatever the answers are.

## Main definitions

* `World.disposable` — the instances that a provider keeps and that have to be disposed of
* `Stage.owned?` — the provider that a scope owns
* `Stage.Disposal` — what a step disposes of, in a run

## Main statements

* `Stage.Valid.count_run` — nothing of an ended scope is disposed of again
* `Stage.Valid.ended_of_ends` — a scope that is disposed of, finished or dropped has ended
* `Stage.disposal_of_run` — every step of every run disposes of the right instances
-/

namespace ServiceContainer

/-! ### What there is to dispose of -/

/-- The name of the cell that keeps the instance of a registered service, which a transient one has not. -/
def Registration.cellName? (r : Registration) : Option String :=
  if r.lifetime = .transient then none else (serviceIdentifier r.key).toOption.map cellName

/-- The instances in the cells of the disposable services of a provider, in the order of their registrations. -/
def World.disposable (w : World) (rs : List Registration) (k : Keeper) : List Nat :=
  ((registrationsOf rs k.kind).filter (·.disposable)).filterMap fun r => r.cellName?.bind (w.cell? k.store)

/-- The provider that a scope owns, if a handle leads to the scope. -/
def Stage.owned? (s : Stage) (id : Nat) : Option Keeper :=
  ((scopesOf (s.handles.map (·.2))).find? (·.1 == id)).bind (·.2.owned?)

section

variable {w : World} {k : Keeper} {rs : List Registration}

theorem Identified.disposal?_eq {x : Identified} (hx : x.Genuine) :
    x.disposal? = if x.registration.disposable then x.registration.cellName? else none := by
  rw [disposal?, cell?, Registration.cellName?]
  rw [Genuine] at hx
  rw [hx]
  split
  · split <;> rfl
  · rfl

/-- What a provider disposes of is what it keeps for disposable services. -/
theorem World.due_eq (h : k.assembly.LaidOut rs) : w.due k = w.disposable rs k := by
  obtain ⟨xs, hxs, hserves⟩ := h.serves k.kind
  rw [World.due, World.disposable, ← hxs, List.filterMap_filter, List.filterMap_map, Keeper.provider,
    hserves.disposals, List.filterMap_filterMap]
  refine List.filterMap_congr fun x hx => ?_
  rw [Identified.disposal?_eq (hserves.genuine x hx), Function.comp_apply]
  split <;> rfl

end

/-! ### Scopes and their owners -/

section

variable {c c' : Census} {s : Stage} {t : Step} {held held' : List Receipt} {ended : List Nat} {disposed : List Keeper}

namespace Stage

/-- The census knows what scopes own. -/
theorem Valid.owned?_eq (hs : s.Valid c held) {id : Nat} (hid : id ∈ s.scopeIds) : s.owned? id = c.owned id := by
  rw [owned?]
  cases hx : (scopesOf (s.handles.map (·.2))).find? (·.1 == id) with
  | none =>
    obtain ⟨x, hx', rfl⟩ := List.mem_map.mp hid
    exact absurd (beq_self_eq_true x.1) (List.find?_eq_none.mp hx x hx')
  | some x =>
    have hfst := List.find?_some hx
    obtain ⟨y, hy, hmem⟩ := exists_of_mem_scopesOf (List.mem_of_find?_eq_some hx)
    rw [Option.bind_some, (hs.regular y hy).owned?_eq hmem, beq_iff_eq.mp hfst]

theorem touched_subset (s : Stage) (t : Step) : s.touched t ⊆ s.scopeIds := by
  rw [touched]
  cases t.replaced? with
  | none => exact List.nil_subset _
  | some name => exact scopeIdsOf_subset s name

/-- A scope owns what it owned before. -/
theorem Advances.owned_eq {s' : Stage} (h : s.Advances c c' t s' held' ended disposed) (hs : s.Valid c held) {id : Nat}
    (hid : id ∈ s.scopeIds) : c'.owned id = c.owned id := by
  obtain ⟨x, hx, rfl⟩ := List.mem_map.mp hid
  obtain ⟨y, hy, hx⟩ := exists_of_mem_scopesOf hx
  obtain ⟨o, ho⟩ := (hs.regular y hy).scope_known hx
  exact h.extension.owned_eq ho

/-- The scoped providers that are disposed of are those that the ended scopes own. -/
theorem Advances.filter_isSome {s' : Stage} (h : s.Advances c c' t s' held' ended disposed) (hs : s.Valid c held) :
    disposed.filter (·.scope.isSome) = ended.filterMap s.owned? := by
  rw [h.retires.owned]
  refine List.filterMap_congr fun id hid => ?_
  have hknown := touched_subset s t (h.touched hid)
  rw [h.owned_eq hs hknown, hs.owned?_eq hknown]

theorem Valid.disposedRoots (hs : s.Valid c held) (t : Step) :
    ∀ k ∈ s.disposedRoots t, k.scope = none ∧ k.Settled c.home := by
  rw [Stage.disposedRoots.eq_def]
  split
  next source =>
    cases hh : s.handle? source with
    | none => exact fun _ hk => nomatch hk
    | some h => exact roots_settled (hs.regular _ (handle?_eq_some hh))
  next => exact fun _ hk => nomatch hk

/-- A scoped provider that is disposed of is owned by a scope that ends, and all providers are known. -/
theorem Advances.of_mem_disposed {s' : Stage} (h : s.Advances c c' t s' held' ended disposed) (hs : s.Valid c held)
    {k : Keeper} (hk : k ∈ disposed) :
    k.Settled c'.home ∧ (k.scope.isSome = true → ∃ id ∈ ended, c'.owned id = some k) := by
  rcases World.mem_roots_or_owned h.retires.owned h.retires.roots hk with ⟨hroot, hnone⟩ | ⟨id, hid, howned⟩
  · refine ⟨(hs.disposedRoots t k hroot).2.mono h.extension.home, fun hsome => ?_⟩
    rw [hnone] at hsome
    cases hsome
  · exact ⟨(h.valid.fits.owned_settled id k howned).2, fun _ => ⟨id, hid, howned⟩⟩

/-- What a provider disposes of was made by it. -/
theorem Advances.madeBy {s' : Stage} (h : s.Advances c c' t s' held' ended disposed) (hs : s.Valid c held)
    {k : Keeper} (hk : k ∈ disposed) {x : Nat} (hx : x ∈ s.world.due k) : s.world.MadeBy k x :=
  (hs.sound.mono h.extension.home).madeBy_of_mem_due (h.of_mem_disposed hs hk).1 hx

/-- Only the provider that made an instance disposes of it. -/
theorem Advances.not_mem_flatMap_due {s' : Stage} (h : s.Advances c c' t s' held' ended disposed)
    (hs : s.Valid c held) {ks : List Keeper} (hks : ks ⊆ disposed) {k : Keeper} (hk : k ∉ ks) {x : Nat}
    (hx : s.world.MadeBy k x) : x ∉ ks.flatMap s.world.due := by
  intro hmem
  obtain ⟨l, hl, hxl⟩ := List.mem_flatMap.mp hmem
  exact hk (World.madeBy_unique hx (h.madeBy hs (hks hl) hxl) ▸ hl)

theorem Advances.count_eq {s' : Stage} (h : s.Advances c c' t s' held' ended disposed) (hs : s.Valid c held)
    {k : Keeper} (hk : k ∉ disposed) {x : Nat} (hx : s.world.MadeBy k x) :
    s'.world.disposals.count x = s.world.disposals.count x := by
  have hnot := h.not_mem_flatMap_due hs (List.Subset.refl _) hk hx
  rw [h.retires.disposals_eq, List.count_append, List.count_eq_zero.mpr hnot, Nat.add_zero]

/-- No step disposes of what an ended scope owns. -/
theorem Advances.not_mem_disposed {s' : Stage} (h : s.Advances c c' t s' held' ended disposed) (hs : s.Valid c held)
    {id : Nat} {k : Keeper} (hid : id ∈ s.world.ended) (howned : c.owned id = some k) : k ∉ disposed := by
  intro hk
  obtain ⟨id', hid', howned'⟩ := (h.of_mem_disposed hs hk).2 (hs.fits.owned_settled id k howned).1
  have hsame := h.valid.fits.owned_injective id' id k howned' (h.extension.owned_eq_some howned)
  exact h.retires.fresh id' hid' (hsame ▸ hid)

/-- Nothing that an ended scope keeps is disposed of again. -/
theorem Valid.count_run (hs : s.Valid c held) {id : Nat} {k : Keeper} (hid : id ∈ s.world.ended)
    (howned : c.owned id = some k) {x : Nat} (hx : s.world.MadeBy k x) {steps : List Step}
    (hsteps : ∀ t ∈ steps, t.Operates Assembly.Orderly) :
    (s.run steps).world.disposals.count x = s.world.disposals.count x := by
  induction steps generalizing c s held with
  | nil => rfl
  | cons t rest ih =>
    obtain ⟨c', ended, disposed, h⟩ := hs.perform (hsteps t List.mem_cons_self)
    have hid' : id ∈ (s.perform t).1.world.ended := by
      rw [h.retires.ended_eq]
      exact List.mem_append_left _ hid
    have howned' := h.extension.owned_eq_some howned
    rw [run_cons, ih h.valid hid' howned' (hx.mono h.retires.instances) fun u hu =>
      hsteps u (List.mem_cons_of_mem t hu)]
    exact h.count_eq hs (h.not_mem_disposed hs hid howned) hx

/-- A scoped provider is disposed of once when the scope ends that owns it. -/
theorem Advances.exists_split {s' : Stage} (h : s.Advances c c' t s' held' ended disposed) {id : Nat} {k : Keeper}
    (hid : id ∈ ended) (howned : c'.owned id = some k) :
    ∃ before after, disposed = before ++ k :: after ∧ k ∉ before ∧ k ∉ after := by
  have hscope := (h.valid.fits.owned_settled id k howned).1
  have hnodup : (disposed.filter (·.scope.isSome)).Nodup := by
    rw [h.retires.owned]
    exact h.retires.nodup.filterMap h.valid.fits.owned_injective
  have hmem : k ∈ disposed.filter (·.scope.isSome) := by
    rw [h.retires.owned]
    exact List.mem_filterMap.mpr ⟨id, hid, howned⟩
  -- It is among the scoped providers once, and it is no root provider.
  obtain ⟨before, after, rfl⟩ := List.append_of_mem (List.mem_filter.mp hmem).1
  rw [List.filter_append, List.filter_cons, if_pos hscope] at hnodup
  have hsides := List.nodup_middle.mp hnodup
  rw [List.nodup_cons, List.mem_append, not_or, List.mem_filter, List.mem_filter] at hsides
  exact ⟨before, after, rfl, fun hk => hsides.1.1 ⟨hk, hscope⟩, fun hk => hsides.1.2 ⟨hk, hscope⟩⟩

theorem due_nodup (hs : s.Valid c held) {k : Keeper} (hk : k.Settled c'.home) : (s.world.due k).Nodup := by
  obtain ⟨rs, hrs⟩ := hk.orderly.laidOut
  obtain ⟨xs, -, hserves⟩ := hrs.serves k.kind
  refine hserves.disposals_nodup.filterMap fun d d' x hx hx' => ?_
  exact (hs.sound.injective _ _ _ _ _ hx hx').2

/-- What a scope keeps when it ends is disposed of then, once, and was not before. -/
theorem Advances.count_of_owned {s' : Stage} (h : s.Advances c c' t s' held' ended disposed) (hs : s.Valid c held)
    {id : Nat} {k : Keeper} (hid : id ∈ ended) (howned : c.owned id = some k) {x : Nat} (hx : x ∈ s.world.due k) :
    x ∉ s.world.disposals ∧ s'.world.disposals.count x = 1 := by
  obtain ⟨hscope, hsettled⟩ := hs.fits.owned_settled id k howned
  have hmade := hs.sound.madeBy_of_mem_due hsettled hx
  have hnew : x ∉ s.world.disposals := by
    intro hmem
    obtain ⟨id', hid', howned'⟩ := hs.spent x hmem k hscope hmade
    -- What was disposed of belonged to a scope that had ended, and this one ends now for the first time.
    obtain rfl := hs.fits.owned_injective id' id k howned' howned
    exact h.retires.fresh id' hid hid'
  have howned' := h.extension.owned_eq_some howned
  obtain ⟨before, after, hsplit, hbefore, hafter⟩ := h.exists_split hid howned'
  have hleft : before ⊆ disposed := hsplit ▸ List.subset_append_left _ _
  have hright : after ⊆ disposed := hsplit ▸ fun l hl => List.mem_append_right _ (List.mem_cons_of_mem k hl)
  have h₁ := h.not_mem_flatMap_due hs hleft hbefore hmade
  have h₂ := h.not_mem_flatMap_due hs hright hafter hmade
  refine ⟨hnew, ?_⟩
  rw [h.retires.disposals_eq, hsplit, List.flatMap_append, List.flatMap_cons, List.count_append, List.count_append,
    List.count_append, List.count_eq_zero.mpr hnew, List.count_eq_zero.mpr h₁, List.count_eq_zero.mpr h₂,
    List.count_eq_one_of_mem (due_nodup hs hsettled) hx]

end Stage

/-! ### Explicit ends -/

/-- The step ends the scope that a handle of a name is, or disposes of the handle or lets it go. -/
inductive Step.Ends (source : String) (h : Handle) : Step → Prop where
  | dispose : Ends source h (.dispose source)
  | drop : Ends source h (.drop source)
  | finish (isScope : h.IsScope) : Ends source h (.finish source)

namespace Stage

variable {source name : String} {h : Handle}

theorem Valid.perform_finish (hs : s.Valid c held) (hh : s.handle? source = some h) (hscope : h.IsScope) :
    s.perform (.finish source) = (s.drop source h, .done) := by
  rw [Stage.perform, onHandle, hh]
  cases h with
  | scope id owner inner =>
    -- No other handle leads to the scope, so finishing it lets it go.
    have hshared : s.isShared source id = false := by
      rw [isShared, List.any_eq_false]
      intro x hx heq
      have hid : id ∈ (Handle.scope id owner inner).scopeIds := by
        rw [Handle.scopeIds_scope]
        exact List.mem_cons_self
      refine (hs.scopeIds_split hh).2.2 hid ?_
      rw [← beq_iff_eq.mp heq]
      exact List.mem_map_of_mem hx
    change (if s.isShared source id = true then _ else _) = _
    rw [hshared]
    rfl
  | _ => exact hscope.elim

/-- Scopes that are disposed of, finished or let go have ended. -/
theorem Valid.ended_of_ends (hs : s.Valid c held) (hh : s.handle? source = some h) (ht : t.Ends source h) :
    h.scopeIds ⊆ (s.perform t).1.world.ended := by
  have hmem := handle?_eq_some hh
  have hregular := hs.regular _ hmem
  obtain ⟨hdistinct, -, hdisjoint⟩ := hs.scopeIds_split hh
  have hdrop : h.scopeIds ⊆ (s.drop source h).world.ended := fun id hid =>
    (hregular.release s.world _).2 id hid (hdisjoint hid)
  cases ht with
  | dispose =>
    rw [Stage.perform, onHandle, hh]
    exact hregular.ended_dispose s.world hdistinct (hs.closed _ hmem)
  | drop =>
    rw [Stage.perform, onHandle, hh]
    exact hdrop
  | finish hscope =>
    rw [hs.perform_finish hh hscope]
    exact hdrop

theorem touched_eq_of_ends (hh : s.handle? source = some h) (ht : t.Ends source h) : s.touched t = h.scopeIds := by
  cases ht <;> exact touched_eq rfl hh

theorem handle?_put (s : Stage) (name : String) (h : Handle) : (s.put name h).handle? name = some h := by
  have hfind : (s.without name).find? (·.1 == name) = none := by
    refine List.find?_eq_none.mpr fun x hx => ?_
    simpa using (List.mem_filter.mp hx).2
  rw [handle?, put]
  split <;> simp [List.find?_append, hfind]

/-- What scopes that own nothing leave behind. -/
theorem Advances.disposed_eq_nil {s' : Stage} (h : s.Advances c c' t s' held' ended disposed) (hs : s.Valid c held)
    (hroots : s.disposedRoots t = []) (hfree : ∀ id ∈ ended, s.owned? id = none) : disposed = [] := by
  have howned := h.filter_isSome hs
  rw [List.filterMap_eq_nil_iff.mpr hfree] at howned
  have hnone := h.retires.roots
  rw [hroots] at hnone
  refine List.eq_nil_iff_forall_not_mem.mpr fun k hk => ?_
  cases hscope : k.scope with
  | none => exact List.filter_eq_nil_iff.mp hnone k hk (by rw [hscope]; rfl)
  | some n => exact List.filter_eq_nil_iff.mp howned k hk (by rw [hscope]; rfl)

/-- The end of a nested scope disposes of nothing. -/
theorem Advances.disposed_of_nested {s' : Stage} (hadv : s.Advances c c' t s' held' ended disposed)
    (hs : s.Valid c held) (hh : s.handle? source = some h) (ht : t.Ends source h) (hnested : h.IsNested) :
    disposed = [] := by
  refine hadv.disposed_eq_nil hs ?_ fun id hid => ?_
  · cases ht with
    | dispose =>
      rw [disposedRoots, hh, Option.elim_some]
      cases h with
      | scope => rw [Handle.roots]
      | _ => exact hnested.1.elim
    | drop | finish => rfl
  · have hids := hadv.touched hid
    rw [touched_eq_of_ends hh ht] at hids
    rw [hs.owned?_eq (mem_scopeIds (handle?_eq_some hh) hids)]
    obtain ⟨x, hx, rfl⟩ := List.mem_map.mp hids
    rw [← (hs.regular _ (handle?_eq_some hh)).owned?_eq hx, hnested.2 x hx]

/-- Disposing of a root provider ends no scope. -/
theorem Advances.of_root {s' : Stage} {a : Assembly} {n : Nat}
    (hadv : s.Advances c c' (.dispose source) s' held' ended disposed)
    (hh : s.handle? source = some (.root a n)) : ended = [] ∧ disposed = [⟨a, n, none⟩] := by
  have hended : ended = [] := by
    have hids := hadv.touched
    rw [touched_eq_of_ends hh .dispose, Handle.scopeIds, Handle.scopes] at hids
    exact List.eq_nil_of_subset_nil hids
  have howned := hadv.retires.owned
  have hroots := hadv.retires.roots
  rw [hended, List.filterMap_nil] at howned
  rw [disposedRoots, hh, Option.elim_some, Handle.roots] at hroots
  refine ⟨hended, ?_⟩
  rw [← hroots, eq_comm, List.filter_eq_self]
  intro k hk
  simpa using List.filter_eq_nil_iff.mp howned k hk

end Stage

end

/-! ### Runs -/

/-- What a step of a run disposes of, with regard to the steps after it. -/
structure Stage.Disposal (reg : Assembly → List Registration) (s : Stage) (t : Step) (after : List Step)
    (ended : List Nat) (disposed : List Keeper) : Prop where
  /-- Some scopes end for the first time. -/
  ended_eq : (s.perform t).1.world.ended = s.world.ended ++ ended
  nodup : ended.Nodup
  fresh : ∀ id ∈ ended, id ∉ s.world.ended
  /-- Some providers dispose of what they keep for disposable services, in the order of the registrations. -/
  disposals_eq : (s.perform t).1.world.disposals =
    s.world.disposals ++ disposed.flatMap fun k => s.world.disposable (reg k.assembly) k
  /-- The scoped providers among them are those that the scopes own. -/
  owned : disposed.filter (·.scope.isSome) = ended.filterMap s.owned?
  /-- The root providers among them are those that the step disposes of without a scope around them. -/
  roots : disposed.filter (·.scope.isNone) = s.disposedRoots t
  /-- What a scope keeps when it ends was not disposed of before, is now, and never is again. -/
  once : ∀ id ∈ ended, ∀ k, s.owned? id = some k → ∀ x ∈ s.world.disposable (reg k.assembly) k,
    x ∉ s.world.disposals ∧ (s.perform t).1.world.disposals.count x = 1 ∧
      ((s.perform t).1.run after).world.disposals.count x = 1
  /-- A step that disposes of no root provider disposes of no instance that one made. -/
  spared : s.disposedRoots t = [] → ∀ k x, k.scope = none → s.world.MadeBy k x →
    (s.perform t).1.world.disposals.count x = s.world.disposals.count x
  /-- Disposing of a root provider does this, and ends no scope. -/
  root : ∀ source a n, t = .dispose source → s.handle? source = some (.root a n) →
    ended = [] ∧ disposed = [⟨a, n, none⟩]
  /-- Only requests change cells. -/
  cells : ¬ t.IsRequest → (s.perform t).1.world.cells = s.world.cells
  /-- What is told to end has ended. -/
  told : ∀ source h, s.handle? source = some h → t.Ends source h → h.scopeIds ⊆ (s.perform t).1.world.ended
  /-- A scope that nothing leads to any more has ended. -/
  lost : ∀ id ∈ s.scopeIds, id ∈ (s.perform t).1.scopeIds ∨ id ∈ (s.perform t).1.world.ended
  /-- A scope on a scope is nested. -/
  nested : ∀ source name h, t = .scope source name ∨ t = .innerScope source name → s.handle? source = some h →
    h.IsScope → ∃ g, (s.perform t).1.handle? name = some g ∧ g.IsNested
  /-- The end of a nested scope disposes of nothing. -/
  silent : ∀ source h, s.handle? source = some h → t.Ends source h → h.IsNested →
    (s.perform t).1.world.disposals = s.world.disposals

namespace Stage

theorem Valid.exists_nested {c : Census} {s : Stage} {held : List Receipt} {t : Step} {source name : String}
    {h : Handle} (hs : s.Valid c held) (ht : t = .scope source name ∨ t = .innerScope source name)
    (hh : s.handle? source = some h) (hscope : h.IsScope) :
    ∃ g, (s.perform t).1.handle? name = some g ∧ g.IsNested := by
  have hnested := (hs.regular _ (handle?_eq_some hh)).isNested_createScope hscope s.world
  rcases ht with rfl | rfl
  · rw [Stage.perform, onHandle, hh]
    exact ⟨_, handle?_put _ _ _, hnested⟩
  · rw [Stage.perform, onHandle, hh]
    cases h with
    | scope id owner inner =>
      rw [Handle.createScope] at hnested
      exact ⟨_, handle?_put _ _ _, hnested⟩
    | _ => exact hscope.elim

theorem Advances.disposal {c c' : Census} {s : Stage} {held held' : List Receipt} {t : Step} {ended : List Nat}
    {disposed : List Keeper} (hadv : s.Advances c c' t (s.perform t).1 held' ended disposed) (hs : s.Valid c held)
    {reg : Assembly → List Registration} (hlaid : ∀ k : Keeper, k.Settled c'.home → k.assembly.LaidOut (reg k.assembly))
    {after : List Step} (hafter : ∀ u ∈ after, u.Operates Assembly.Orderly) :
    s.Disposal reg t after ended disposed := by
  have hdue (k : Keeper) (hk : k.Settled c'.home) : s.world.due k = s.world.disposable (reg k.assembly) k :=
    World.due_eq (hlaid k hk)
  have hdisposals : disposed.flatMap s.world.due = disposed.flatMap fun k => s.world.disposable (reg k.assembly) k :=
    List.flatMap_congr fun k hk => hdue k (hadv.of_mem_disposed hs hk).1
  have hsum := hadv.retires.disposals_eq
  refine ⟨hadv.retires.ended_eq, hadv.retires.nodup, hadv.retires.fresh, hdisposals ▸ hsum, hadv.filter_isSome hs,
    hadv.retires.roots, ?once, ?spared, ?root, hadv.cells.resolve_left, fun source h => hs.ended_of_ends, hadv.lost,
    fun source name h => hs.exists_nested, ?silent⟩
  case once =>
    intro id hid k howned x hx
    rw [hs.owned?_eq (touched_subset s t (hadv.touched hid))] at howned
    obtain ⟨-, hsettled⟩ := hs.fits.owned_settled id k howned
    rw [← hdue k (hsettled.mono hadv.extension.home)] at hx
    obtain ⟨hnew, hcount⟩ := hadv.count_of_owned hs hid howned hx
    have hended : id ∈ (s.perform t).1.world.ended := by
      rw [hadv.retires.ended_eq]
      exact List.mem_append_right _ hid
    -- From here on the scope has ended, which is all that the rest of the run needs to know.
    have hmade := (hs.sound.madeBy_of_mem_due hsettled hx).mono hadv.retires.instances
    refine ⟨hnew, hcount, ?_⟩
    rw [hadv.valid.count_run hended (hadv.extension.owned_eq_some howned) hmade hafter, hcount]
  case spared =>
    intro hroots k x hscope hmade
    refine hadv.count_eq hs (fun hk => ?_) hmade
    have hroot : k ∈ disposed.filter (·.scope.isNone) := List.mem_filter.mpr ⟨hk, by rw [hscope]; rfl⟩
    rw [hadv.retires.roots, hroots] at hroot
    exact nomatch hroot
  case root =>
    rintro source a n rfl hh
    exact hadv.of_root hh
  case silent =>
    intro source h hh ht hnested
    rw [hsum, hadv.disposed_of_nested hs hh ht hnested, List.flatMap_nil, List.append_nil]

/-- Every step of every run disposes of what the scopes keep that it ends for the first time, and of no more. -/
theorem disposal_of_run {reg : Assembly → List Registration} {before after : List Step} {t : Step}
    (hsteps : ∀ u ∈ before ++ t :: after, u.Operates fun a => a.LaidOut (reg a) ∧ a.Acyclic) :
    ∃ ended disposed, (({} : Stage).run before).Disposal reg t after ended disposed := by
  have horderly (a : Assembly) (ha : a.LaidOut (reg a) ∧ a.Acyclic) : a.Orderly := ⟨⟨_, ha.1⟩, ha.2⟩
  have ht := hsteps t (List.mem_append_right _ List.mem_cons_self)
  obtain ⟨c, hadmits, hs⟩ := valid_run horderly fun u hu => hsteps u (List.mem_append_left _ hu)
  obtain ⟨c', ended, disposed, hadv⟩ := hs.perform (ht.mono horderly)
  have hadmits' := hadv.admits _ ht hadmits
  refine ⟨ended, disposed, hadv.disposal hs (fun k hk => (hadmits' _ _ hk.own).1) fun u hu => ?_⟩
  exact (hsteps u (List.mem_append_right _ (List.mem_cons_of_mem t hu))).mono horderly

/-- The outer scope of the sample ends, and what was made in it is asked for again. -/
theorem disposal_of_visits :
    ∃ ended disposed, (({} : Stage).run Sample.visits).Disposal (fun _ => Sample.trio) (.dispose "day")
      [.get "day" "Session", .drop "hour", .finish "day", .dispose "office"] ended disposed :=
  disposal_of_run (List.forall_mem_append.mpr ⟨Sample.visits_operate, by simp [Step.Operates]⟩)

end Stage

end ServiceContainer
