import ServiceContainer.Proofs.Stages

/-!
# Runs

What holds after any run of the steps that work on containers: new root providers, further handles on them, scopes on
any handle, compositions, requests, disposal and letting go. Every step leads from a valid stage to a valid stage, for
a census that knows more and with the receipt of the request, if it was one.

The code of a service that is handed the provider is known by `Assembly.requests` alone: it asks for the same types in
the same order on every making, whatever the answers are. This is assumed of all runs, here and in what builds on it.

## Main definitions

* `Step.Operates`, `Stage.run` — the steps in question, and runs of them
* `Stage.outcomes` — what comes of the steps of a run
* `Stage.delivered`, `Stage.deliveries` — the receipts of requests
* `Stage.Advances` — what a step does

## Main statements

* `Stage.Valid.perform` — a step keeps a stage valid
* `Stage.valid_run` — every run ends on a valid stage
-/

namespace ServiceContainer

/-! ### Steps and runs -/

/-- The step works on containers as they are: root providers are of admitted assemblies, and nobody puts providers or
scopes together by hand. -/
def Step.Operates (admitted : Assembly → Prop) : Step → Prop
  | .root a _ => admitted a
  | .scoped _ _ _ | .foreign _ _ | .own _ _ | .nest _ _ => False
  | .clone _ _ | .scope _ _ | .innerScope _ _ | .compose _ _ | .get _ _ | .require _ _ | .dispose _ | .finish _
  | .drop _ | .inspect _ => True

theorem Step.Operates.mono {p q : Assembly → Prop} {t : Step} (h : t.Operates p) (hpq : ∀ a, p a → q a) :
    t.Operates q := by
  cases t <;> first | exact hpq _ h | exact h

namespace Stage

/-- The stage after some steps. -/
def run (s : Stage) (steps : List Step) : Stage := steps.foldl (fun s t => (s.perform t).1) s

@[simp] theorem run_nil (s : Stage) : s.run [] = s := rfl

@[simp] theorem run_cons (s : Stage) (t : Step) (steps : List Step) :
    s.run (t :: steps) = (s.perform t).1.run steps := rfl

/-- What comes of the steps of a run. -/
def outcomes (s : Stage) : List Step → List Outcome
  | [] => []
  | t :: rest => (s.perform t).2 :: (s.perform t).1.outcomes rest

/-- The receipt of a step that is a request, if an instance was found. -/
def delivered (s : Stage) (t : Step) : List Receipt :=
  match t, (s.perform t).2 with
  | .get source type, .found id => (s.handle? source).toList.map (⟨·, type, id⟩)
  | .require source type, .found id => (s.handle? source).toList.map (⟨·, type, id⟩)
  | _, _ => []

/-- The receipts of the requests of a run. -/
def deliveries (s : Stage) : List Step → List Receipt
  | [] => []
  | t :: rest => s.delivered t ++ (s.perform t).1.deliveries rest

end Stage

/-! ### One step -/

variable {c c' : Census} {s : Stage} {held : List Receipt} {w' : World}

/-- The step asks for an instance. -/
def Step.IsRequest : Step → Prop
  | .get _ _ | .require _ _ => True
  | _ => False

/-- The root providers that a step disposes of. -/
def Stage.disposedRoots (s : Stage) : Step → List Keeper
  | .dispose source => (s.handle? source).elim [] Handle.roots
  | _ => []

/-- The name whose handle a step disposes of, lets go, or replaces by another one. -/
def Step.replaced? : Step → Option String
  | .root _ name | .clone _ name | .scoped _ _ name | .foreign _ name | .scope _ name | .innerScope _ name | .own _ name
  | .nest _ name | .compose _ name => some name
  | .dispose source | .finish source | .drop source => some source
  | .get _ _ | .require _ _ | .inspect _ => none

/-- The scopes that the handle leads to that a step disposes of, lets go or replaces. -/
def Stage.touched (s : Stage) (t : Step) : List Nat := t.replaced?.elim [] s.scopeIdsOf

/-- Some scopes end for the first time, some providers are disposed of, and instances and filled cells stay. -/
structure World.Retires (c : Census) (roots : List Keeper) (w : World) (ended : List Nat) (disposed : List Keeper)
    (w' : World) : Prop where
  ended_eq : w'.ended = w.ended ++ ended
  disposals_eq : w'.disposals = w.disposals ++ disposed.flatMap w.due
  nodup : ended.Nodup
  fresh : ∀ id ∈ ended, id ∉ w.ended
  owned : disposed.filter (·.scope.isSome) = ended.filterMap c.owned
  roots : disposed.filter (·.scope.isNone) = roots
  instances : w.instances <+: w'.instances
  kept : ∀ n name id, w.cell? n name = some id → w'.cell? n name = some id

/-- What a step does to a valid stage. -/
structure Stage.Advances (c c' : Census) (s : Stage) (t : Step) (s' : Stage) (held : List Receipt)
    (ended : List Nat) (disposed : List Keeper) : Prop where
  extension : c.Extends c'
  admits : ∀ admitted, t.Operates admitted → c.Admits admitted → c'.Admits admitted
  valid : s'.Valid c' held
  retires : s.world.Retires c' (s.disposedRoots t) ended disposed s'.world
  touched : ended ⊆ s.touched t
  lost : ∀ id ∈ s.scopeIds, id ∈ s'.scopeIds ∨ id ∈ s'.world.ended
  cells : t.IsRequest ∨ s'.world.cells = s.world.cells

namespace World

variable {w : World}

theorem Ends.retires {roots : List Keeper} {ended : List Nat} {disposed : List Keeper}
    (h : w.Ends c roots ended disposed w') : w.Retires c roots ended disposed w' := by
  have hinstances : w'.instances = w.instances := by rw [h.result]
  refine ⟨by rw [h.result], by rw [h.result], h.nodup, h.fresh, h.owned, h.roots, ⟨[], ?_⟩, ?_⟩
  · rw [List.append_nil, hinstances]
  · rw [h.result]
    exact fun _ _ _ hc => hc

theorem Retires.of_frame {w₁ : World} {roots : List Keeper} {ended : List Nat} {disposed : List Keeper}
    (hframe : w₁ = { w with nextStore := w₁.nextStore, nextScope := w₁.nextScope })
    (h : w₁.Retires c roots ended disposed w') : w.Retires c roots ended disposed w' := by
  have hdue : w₁.due = w.due := by rw [hframe]; rfl
  refine ⟨?_, ?_, h.nodup, ?_, h.owned, h.roots, ?_, ?_⟩
  · rw [h.ended_eq, hframe]
  · rw [h.disposals_eq, hdue, hframe]
  · intro id hid
    have hfresh := h.fresh id hid
    rwa [hframe] at hfresh
  · have hinstances := h.instances
    rwa [hframe] at hinstances
  · intro n name id hc
    refine h.kept n name id ?_
    rw [hframe]
    exact hc

end World

namespace Stage

variable {t : Step}

/-- Nothing happens. -/
theorem Valid.stay (hs : s.Valid c held) (hroots : s.disposedRoots t = []) : s.Advances c c t s held [] [] :=
  ⟨.refl c, fun _ _ h => h, hs, hroots ▸ (World.Ends.refl c s.world).retires, List.nil_subset _, fun _ => .inl,
    .inr rfl⟩

/-- A new handle gets a name, after numbers were taken for it. -/
theorem Valid.advances_put (hs : s.Valid c held) (hext : c.Extends c')
    (hadmits : ∀ admitted, t.Operates admitted → c.Admits admitted → c'.Admits admitted) (hfits : c'.Fits w')
    (hframe : w' = { s.world with nextStore := w'.nextStore, nextScope := w'.nextScope })
    (hle : s.world.nextScope ≤ w'.nextScope) {h : Handle} (hh : h.Regular c') (hdistinct : h.scopeIds.Nodup)
    (habove : ∀ id ∈ h.scopeIds, s.world.nextScope ≤ id) {name : String} (hname : t.replaced? = some name)
    (hroots : s.disposedRoots t = []) :
    ∃ ended disposed, s.Advances c c' t ((Stage.mk w' s.handles).put name h) held ended disposed := by
  have hvalid := hs.extend hext hfits hframe hle
  -- New numbers lie above those in use, so neither the handles nor the ended scopes have them.
  have hdisjoint : (Stage.mk w' s.handles).scopeIds.Disjoint h.scopeIds := by
    intro id hid hid'
    have hlt := hs.scopeId_lt (s := s) hid
    have hge := habove id hid'
    omega
  have hclosed : h.Closed w'.ended := by
    intro x hx hid
    rw [hframe] at hid
    have hlt := hs.ended_lt _ hid
    have hge := habove _ (List.mem_map_of_mem hx)
    omega
  obtain ⟨hput, hlost, E, L, hends, hsub⟩ := hvalid.put hh hdistinct hdisjoint hclosed name
  refine ⟨E, L, hext, hadmits, hput, hroots ▸ hends.retires.of_frame hframe, ?_, hlost, .inr ?_⟩
  · rw [touched, hname]
    exact hsub
  · rw [hends.result, hframe]

/-- A new scope gets a name. -/
theorem Valid.advances_createScope (hs : s.Valid c held) {h : Handle} (hh : h.Regular c) {name : String}
    (hname : t.replaced? = some name) (hroots : s.disposedRoots t = []) : ∃ c' ended disposed,
      s.Advances c c' t ((Stage.mk (h.createScope s.world).2 s.handles).put name (h.createScope s.world).1) held
        ended disposed := by
  obtain ⟨c', hgrown⟩ := hh.createScope (.refl c) hs.fits
  have hids : (scopesOf [(h.createScope s.world).1]).map (·.1) = (h.createScope s.world).1.scopeIds := by
    rw [scopesOf, scopesOf, List.append_nil, Handle.scopeIds]
  refine ⟨c', hs.advances_put hgrown.extension (fun p _ => hgrown.admits p) hgrown.fits hgrown.frame hgrown.scope_le
    (hgrown.regular _ (List.mem_singleton_self _)) (hids ▸ hgrown.distinct) (fun id hid => ?_) hname hroots⟩
  rw [← hids] at hid
  obtain ⟨x, hx, rfl⟩ := List.mem_map.mp hid
  exact hgrown.above x hx

theorem touched_eq {name : String} {h : Handle} (hname : t.replaced? = some name) (hh : s.handle? name = some h) :
    s.touched t = h.scopeIds := by
  rw [touched, hname, Option.elim_some, scopeIdsOf, hh, Option.elim_some]

/-- The handle of a name is let go. -/
theorem Valid.advances_drop (hs : s.Valid c held) {name : String} {h : Handle} (hh : s.handle? name = some h)
    (hname : t.replaced? = some name) (hroots : s.disposedRoots t = []) :
    ∃ ended disposed, s.Advances c c t (s.drop name h) held ended disposed := by
  obtain ⟨E, L, hends, hsub, hothers⟩ := hs.release hh ((s.without name).map (·.2))
  have htake := hs.take name
  have hE : E ⊆ s.scopeIds := List.Subset.trans hsub (mem_scopeIds (handle?_eq_some hh))
  refine ⟨E, L, .refl c, fun _ _ h => h, ?_, hroots ▸ hends.retires, touched_eq hname hh ▸ hsub,
    fun id hid => hs.lost_of_release hh (List.Subset.refl _) hid, .inr (by rw [Stage.drop, hends.result])⟩
  exact hs.ends hends (by simp) (fun id hid => hs.scopeId_lt (hE hid)) htake.regular htake.names htake.distinct hothers

theorem rootsOf_eq (hs : List Handle) : rootsOf hs = hs.flatMap Handle.roots := by
  induction hs with
  | nil => rw [rootsOf, List.flatMap_nil]
  | cons h rest ih => rw [rootsOf, ih, List.flatMap_cons]

theorem roots_settled {h : Handle} (hh : h.Regular c) : ∀ k ∈ h.roots, k.scope = none ∧ k.Settled c.home := by
  induction hh with
  | @root k settled isRoot =>
    obtain ⟨a, r, _ | n⟩ := k
    · intro k hk
      rw [Keeper.handle, Handle.roots, List.mem_singleton] at hk
      exact hk ▸ ⟨isRoot, settled⟩
    · exact absurd isRoot (Option.some_ne_none n)
  | scope | group => simp [Handle.roots]
  | composed _ ih =>
    intro k hk
    rw [Handle.roots, rootsOf_eq] at hk
    obtain ⟨p, hp, hk⟩ := List.mem_flatMap.mp hk
    exact ih p hp k hk

/-- The handle of a name is disposed of. -/
theorem Valid.advances_dispose (hs : s.Valid c held) {name : String} {h : Handle} (hh : s.handle? name = some h) :
    ∃ ended disposed,
      s.Advances c c (.dispose name) { s with world := h.dispose s.world } held ended disposed := by
  have hmem := handle?_eq_some hh
  have hregular := hs.regular _ hmem
  obtain ⟨E, L, hends, hsub⟩ := hregular.disposes s.world
  obtain ⟨hdistinct, -, hdisjoint⟩ := hs.scopeIds_split hh
  have hE : E ⊆ s.scopeIds := List.Subset.trans hsub (mem_scopeIds hmem)
  have hroots : s.disposedRoots (.dispose name) = h.roots := by rw [disposedRoots, hh, Option.elim_some]
  refine ⟨E, L, .refl c, fun _ _ h => h, ?_, hroots ▸ hends.retires,
    touched_eq (t := .dispose name) rfl hh ▸ hsub, fun _ => .inl, .inr (by rw [hends.result])⟩
  refine hs.ends hends (roots_settled hregular) (fun id hid => hs.scopeId_lt (hE hid)) hs.regular hs.names hs.distinct
    fun x hx => ?_
  rcases List.mem_cons.mp ((perm_without hs.names hh).mem_iff.mp hx) with rfl | hx
  · -- Everything in the handle itself has ended.
    exact .of_all (hregular.ended_dispose s.world hdistinct (hs.closed _ hmem)) hregular.scopeIds_subset
  · rw [hends.result]
    refine (hs.closed x ((without_sublist s name).subset hx)).append fun id hid hidx => ?_
    have hothers : x.2.scopeIds ⊆ (s.take name).scopeIds := mem_scopeIds hx
    exact hdisjoint (hsub hid) (hothers hidx)

/-- The receipt for what comes of a request. -/
def outcomeReceipt (h : Handle) (type : String) : Outcome → List Receipt
  | .found id => [⟨h, type, id⟩]
  | _ => []

theorem outcomeReceipt_outcomeOf (h : Handle) (type : String) (r : Except DependencyError (Option Nat)) :
    outcomeReceipt h type (outcomeOf r) = h.received type r.toOption.join := by
  rcases r with _ | _ | _ <;> rfl

section

variable {source type : String} {h : Handle}

theorem perform_get (hh : s.handle? source = some h) : s.perform (.get source type) = s.request (h.get type) := by
  rw [perform, onHandle, hh]

theorem perform_require (hh : s.handle? source = some h) :
    s.perform (.require source type) = s.request (some <$> h.require type) := by
  rw [perform, onHandle, hh]

theorem delivered_of_bad (hbad : (s.perform t).2 = .bad) : s.delivered t = [] := by
  unfold delivered
  rw [hbad]
  cases t <;> rfl

theorem delivered_get (hh : s.handle? source = some h) :
    s.delivered (.get source type) = outcomeReceipt h type (s.request (h.get type)).2 := by
  unfold delivered
  rw [perform_get hh]
  cases (s.request (h.get type)).2 <;> simp [outcomeReceipt, hh]

theorem delivered_require (hh : s.handle? source = some h) :
    s.delivered (.require source type) = outcomeReceipt h type (s.request (some <$> h.require type)).2 := by
  unfold delivered
  rw [perform_require hh]
  cases (s.request (some <$> h.require type)).2 <;> simp [outcomeReceipt, hh]

end

/-- An instance is asked for. -/
theorem Valid.advances_request (hs : s.Valid c held) (ht : t.IsRequest) {h : Handle} {type : String}
    {attempt : Attempt (Option Nat)} {services : Site → Prop}
    (hattempt : attempt.Ensures s.world fun r w' => s.world.Grows w' services ∧
      w'.Sound c.home (h.received type r.toOption.join ++ (held ++ w'.receipts))) :
    s.Advances c c t (s.request attempt).1 (outcomeReceipt h type (s.request attempt).2 ++ held) [] [] := by
  have hroots : s.disposedRoots t = [] := by cases t <;> first | rfl | exact ht.elim
  rw [request]
  split
  next r w' hrun =>
    obtain ⟨hgrows, hsound⟩ := hattempt r w' hrun
    rw [outcomeReceipt_outcomeOf]
    refine ⟨.refl c, fun _ _ h => h, ⟨?_, ?_, hs.regular, hs.names, hs.distinct, ?_, ?_, ?_, ?_⟩, ?_, List.nil_subset _,
      fun _ => .inl, .inl ht⟩
    · rwa [List.append_assoc]
    · exact hs.fits.of_le (Nat.le_of_eq hgrows.nextStore.symm) (Nat.le_of_eq hgrows.nextScope.symm)
    · rw [hgrows.ended]
      exact hs.closed
    · rw [hgrows.ended, hgrows.nextScope]
      exact hs.ended_lt
    · rw [hgrows.disposals]
      exact fun x hx => Nat.lt_of_lt_of_le (hs.disposals_lt x hx) hgrows.instances.length_le
    · rw [hgrows.disposals, hgrows.ended]
      rintro x hx k hscope ⟨name, construct, arguments, answers, hmade⟩
      refine hs.spent x hx k hscope ⟨name, construct, arguments, answers, ?_⟩
      obtain ⟨more, hmore⟩ := hgrows.instances
      rwa [← hmore, List.getElem?_append_left (hs.disposals_lt x hx)] at hmade
    · rw [hroots]
      exact ⟨by rw [hgrows.ended, List.append_nil], by rw [hgrows.disposals]; simp, .nil, by simp, rfl, rfl,
        hgrows.instances, hgrows.kept⟩
  next => exact hs.stay hroots

/-- The handles that are taken are those that are missing afterwards. -/
theorem Valid.takeAll? (hs : s.Valid c held) {names : List String} {taken : Stage} {parts : List Handle}
    (h : s.takeAll? names = some (taken, parts)) :
    taken.world = s.world ∧ taken.Valid c held ∧ taken.handles ⊆ s.handles ∧
      (∀ p ∈ parts, p.Regular c ∧ p.Closed s.world.ended) ∧
      (taken.scopeIds ++ (Handle.composed parts).scopeIds).Perm s.scopeIds := by
  induction names generalizing s parts with
  | nil =>
    obtain ⟨rfl, rfl⟩ := Prod.mk.inj (Option.some.inj h)
    exact ⟨rfl, hs, List.Subset.refl _, by simp, by simp [Handle.scopeIds, Handle.scopes, scopesOf]⟩
  | cons name rest ih =>
    rw [Stage.takeAll?] at h
    obtain ⟨first, hfirst, h⟩ := Option.bind_eq_some_iff.mp h
    obtain ⟨⟨after, more⟩, hmore, heq⟩ := Option.bind_eq_some_iff.mp h
    obtain ⟨rfl, rfl⟩ := Prod.mk.inj (Option.some.inj heq)
    obtain ⟨hworld, hvalid, hsub, hparts, hperm⟩ := ih (hs.take name) hmore
    have hmem := handle?_eq_some hfirst
    refine ⟨hworld, hvalid, List.Subset.trans hsub (without_sublist s name).subset,
      List.forall_mem_cons.mpr ⟨⟨hs.regular _ hmem, hs.closed _ hmem⟩, hparts⟩, ?_⟩
    -- Taking a handle takes its scopes out of the stage, and nothing else.
    rw [Handle.scopeIds_composed_cons]
    exact (List.perm_append_comm_assoc ..).trans ((hperm.append_left _).trans (scopeIds_perm hs.names hfirst).symm)

theorem closed_composed {parts : List Handle} {ended : List Nat} (h : ∀ p ∈ parts, p.Closed ended) :
    (Handle.composed parts).Closed ended := by
  intro x hx
  obtain ⟨p, hp, hx⟩ := Handle.mem_scopes_composed.mp hx
  exact h p hp x hx

/-- Handles are put together. -/
theorem Valid.advances_compose (hs : s.Valid c held) {names : List String} {taken : Stage} {parts : List Handle}
    (h : s.takeAll? names = some (taken, parts)) {name : String} (hname : t.replaced? = some name)
    (hroots : s.disposedRoots t = []) :
    ∃ ended disposed, s.Advances c c t (taken.put name (.composed parts)) held ended disposed := by
  obtain ⟨hworld, hvalid, hsub, hparts, hperm⟩ := hs.takeAll? h
  obtain ⟨-, hdistinct, hdisjoint⟩ := List.nodup_append'.mp (hperm.nodup_iff.mpr hs.distinct)
  have hclosed : (Handle.composed parts).Closed taken.world.ended := by
    rw [hworld]
    exact closed_composed fun p hp => (hparts p hp).2
  obtain ⟨hput, hlost, E, L, hends, hE⟩ :=
    hvalid.put (.composed fun p hp => (hparts p hp).1) hdistinct hdisjoint hclosed name
  rw [hworld] at hends
  refine ⟨E, L, .refl c, fun _ _ h => h, hput, hroots ▸ hends.retires, ?_, fun id hid => ?_, .inr ?_⟩
  · rw [touched, hname, Option.elim_some, scopeIdsOf]
    rw [scopeIdsOf] at hE
    cases hold : taken.handle? name with
    | none =>
      rw [hold] at hE
      exact List.Subset.trans hE (List.nil_subset _)
    | some old =>
      rw [hold] at hE
      rw [handle?_of_mem hs.names (hsub (handle?_eq_some hold))]
      exact hE
  -- A scope of a handle that was not taken stays or ends; one that was taken is in the composition.
  · rcases List.mem_append.mp (hperm.mem_iff.mpr hid) with hid | hid
    · exact hlost id hid
    · refine .inl (mem_scopeIds (x := (name, .composed parts)) ?_ hid)
      rw [Stage.put]
      split <;> exact List.mem_append_right _ (List.mem_singleton_self _)
  · rw [hends.result]

/-! ### All steps -/

/-- A handle on the root provider of a new store. -/
theorem Valid.advances_root (hs : s.Valid c held) {a : Assembly} (ha : a.Orderly) (name : String) :
    ∃ c' ended disposed, s.Advances c c' (.root a name) (s.perform (.root a name)).1 held ended disposed := by
  let k : Keeper := ⟨a, s.world.nextStore, none⟩
  have hhome : (c.withHome s.world.nextStore k).home s.world.nextStore = some k := by
    rw [Census.withHome_home, if_pos rfl]
  have hregular : k.handle.Regular (c.withHome s.world.nextStore k) := .root ⟨ha, hhome, hhome⟩ rfl
  have hids : k.handle.scopeIds = [] := by rw [Handle.scopeIds, Keeper.scopes_handle, List.map_nil]
  refine ⟨_, hs.advances_put (t := .root a name) (Census.extends_withHome hs.fits.home_eq_none k)
    (fun p (hp : p a) hadmits => hadmits.withHome _ hp) (hs.fits.withHome k) rfl (Nat.le_refl _) hregular ?_ ?_ rfl rfl⟩
  · rw [hids]
    exact .nil
  · simp [hids]

/-- Another handle on a root provider. -/
theorem Valid.advances_clone (hs : s.Valid c held) {k : Keeper} (hk : k.handle.Regular c) {name : String}
    (hname : t.replaced? = some name) (hroots : s.disposedRoots t = []) :
    ∃ ended disposed, s.Advances c c t (s.put name k.handle) held ended disposed := by
  have hids : k.handle.scopeIds = [] := by rw [Handle.scopeIds, Keeper.scopes_handle, List.map_nil]
  refine hs.advances_put (.refl c) (fun _ _ h => h) hs.fits rfl (Nat.le_refl _) hk ?_ ?_ hname hroots
  · rw [hids]
    exact .nil
  · simp [hids]

/-- A step keeps a stage valid. -/
theorem Valid.perform (hs : s.Valid c held) (ht : t.Operates Assembly.Orderly) :
    ∃ c' ended disposed, s.Advances c c' t (s.perform t).1 (s.delivered t ++ held) ended disposed := by
  cases t with
  | root a name => exact hs.advances_root ht name
  | clone source name =>
    rw [Stage.perform, onHandle]
    split
    next h hh =>
      split
      next a store => exact ⟨c, hs.advances_clone (k := ⟨a, store, none⟩) (hs.regular _ (handle?_eq_some hh)) rfl rfl⟩
      next => exact ⟨c, [], [], hs.stay rfl⟩
    next => exact ⟨c, [], [], hs.stay rfl⟩
  | scope source name =>
    rw [Stage.perform, onHandle]
    split
    next h hh => exact hs.advances_createScope (hs.regular _ (handle?_eq_some hh)) rfl rfl
    next => exact ⟨c, [], [], hs.stay rfl⟩
  | innerScope source name =>
    rw [Stage.perform, onHandle]
    split
    next h hh =>
      split
      next id owner inner =>
        -- A scope passes the creation of scopes on to what is inside.
        have hregular := hs.regular _ (handle?_eq_some hh)
        have hscope := hs.advances_createScope (t := .innerScope source name) hregular rfl rfl
        rwa [Handle.createScope] at hscope
      next => exact ⟨c, [], [], hs.stay rfl⟩
    next => exact ⟨c, [], [], hs.stay rfl⟩
  | compose sources name =>
    rw [Stage.perform]
    split
    next taken parts htake => exact ⟨c, hs.advances_compose htake rfl rfl⟩
    next => exact ⟨c, [], [], hs.stay rfl⟩
  | get source type =>
    cases hh : s.handle? source with
    | some h =>
      have hregular := hs.regular _ (handle?_eq_some hh)
      have hget := get_ensures type hregular.settled hs.sound
      rw [delivered_get hh, perform_get hh]
      exact ⟨c, [], [], hs.advances_request (t := .get source type) trivial hget⟩
    | none =>
      have hbad : s.perform (.get source type) = (s, .bad) := by rw [Stage.perform, onHandle, hh]
      rw [delivered_of_bad (by rw [hbad]), hbad]
      exact ⟨c, [], [], hs.stay rfl⟩
  | require source type =>
    cases hh : s.handle? source with
    | some h =>
      have hregular := hs.regular _ (handle?_eq_some hh)
      have hrequire : (some <$> h.require type).Ensures s.world fun r w' => s.world.Grows w' (h.Reaches type) ∧
          w'.Sound c.home (h.received type r.toOption.join ++ (held ++ w'.receipts)) := by
        refine .map ((require_ensures type hregular.settled hs.sound).mono fun r w' hr => ?_)
        cases r <;> exact hr
      rw [delivered_require hh, perform_require hh]
      exact ⟨c, [], [], hs.advances_request (t := .require source type) trivial hrequire⟩
    | none =>
      have hbad : s.perform (.require source type) = (s, .bad) := by rw [Stage.perform, onHandle, hh]
      rw [delivered_of_bad (by rw [hbad]), hbad]
      exact ⟨c, [], [], hs.stay rfl⟩
  | dispose source =>
    rw [Stage.perform, onHandle]
    split
    next h hh => exact ⟨c, hs.advances_dispose hh⟩
    next hnone =>
      refine ⟨c, [], [], hs.stay ?_⟩
      rw [disposedRoots, hnone, Option.elim_none]
  | finish source =>
    rw [Stage.perform, onHandle]
    split
    next h hh =>
      split
      next id owner inner =>
        split
        · exact ⟨c, [], [], hs.stay rfl⟩
        · exact ⟨c, hs.advances_drop hh rfl rfl⟩
      next => exact ⟨c, [], [], hs.stay rfl⟩
    next => exact ⟨c, [], [], hs.stay rfl⟩
  | drop source =>
    rw [Stage.perform, onHandle]
    split
    next h hh => exact ⟨c, hs.advances_drop hh rfl rfl⟩
    next => exact ⟨c, [], [], hs.stay rfl⟩
  | inspect source =>
    rw [Stage.perform, onHandle]
    split
    next h hh => split <;> exact ⟨c, [], [], hs.stay rfl⟩
    next => exact ⟨c, [], [], hs.stay rfl⟩
  | _ => exact ht.elim

theorem Valid.perm (hs : s.Valid c held) {held' : List Receipt} (hp : held.Perm held') : s.Valid c held' :=
  { hs with sound := hs.sound.perm (hp.append_right _) }

/-- A run keeps a stage valid, and only assemblies that are admitted come in. -/
theorem Valid.run {admitted : Assembly → Prop} (hs : s.Valid c held) (hc : c.Admits admitted) {steps : List Step}
    (hadmitted : ∀ a, admitted a → a.Orderly) (hsteps : ∀ t ∈ steps, t.Operates admitted) :
    ∃ c', c.Extends c' ∧ c'.Admits admitted ∧ (s.run steps).Valid c' (s.deliveries steps ++ held) := by
  induction steps generalizing c s held with
  | nil => exact ⟨c, .refl c, hc, hs⟩
  | cons t rest ih =>
    have ht := hsteps t List.mem_cons_self
    obtain ⟨c₁, E, L, hstep⟩ := hs.perform (ht.mono hadmitted)
    obtain ⟨c₂, hext, hadmits, hvalid⟩ := ih hstep.valid (hstep.admits _ ht hc) fun u hu =>
      hsteps u (List.mem_cons_of_mem t hu)
    -- The receipt of the first step is held for all others.
    refine ⟨c₂, hstep.extension.trans hext, hadmits, hvalid.perm ?_⟩
    rw [deliveries, List.append_assoc]
    exact List.perm_append_comm_assoc _ _ _

theorem valid_run {admitted : Assembly → Prop} {steps : List Step} (hadmitted : ∀ a, admitted a → a.Orderly)
    (hsteps : ∀ t ∈ steps, t.Operates admitted) :
    ∃ c, c.Admits admitted ∧ (({} : Stage).run steps).Valid c (({} : Stage).deliveries steps) := by
  obtain ⟨c, -, hadmits, hvalid⟩ := valid_empty.run (fun _ _ h => nomatch h) hadmitted hsteps
  rw [List.append_nil] at hvalid
  exact ⟨c, hadmits, hvalid⟩

end Stage

/-! ### A sample -/

namespace Sample

/-- A container for a service of each lifetime. -/
def container : Container := (Container.ofRegistrations {} trio).outcome.toOption.get (by decide +kernel)

/-- The container with code that asks for nothing more. -/
def office : Assembly where
  container
  typeName := TypeExpr.display
  requests _ := []

/-- A scope and one on it, and requests through both and through the root provider. -/
def visits : List Step :=
  [.root office "office", .scope "office" "day", .get "day" "Session", .scope "day" "hour", .get "hour" "Session",
    .require "hour" "Ticket", .get "office" "Ticket", .get "office" "Session"]

theorem container_eq : (Container.ofRegistrations {} trio).outcome = .ok container := by
  rw [container]
  exact eq_ok_of_isSome _

theorem office_laidOut : office.LaidOut trio := by
  refine ⟨trio_isLexical, {}, ?_⟩
  rw [container_eq, office]

/-- A container is acyclic if every service needs only services that ask for fewer types. -/
theorem acyclic_of_wants {a : Assembly} {rs : List Registration} (h : a.LaidOut rs)
    (hcheck : ∀ kind, ((a.provider kind).accessors.all fun x => (a.wants x.construct).all fun type =>
      (a.answering? kind type).all fun t =>
        decide ((a.wants t.2.construct).length < (a.wants x.construct).length)) = true) : a.Acyclic := by
  refine h.acyclic_of_rank (fun t => (a.wants t.2.construct).length) fun kind x hx t ⟨type, htype, ht⟩ => ?_
  have hfewer := List.all_eq_true.mp (List.all_eq_true.mp (hcheck kind) x hx) type htype
  rw [ht] at hfewer
  exact of_decide_eq_true hfewer

theorem office_acyclic : office.Acyclic :=
  acyclic_of_wants office_laidOut fun kind => by cases kind <;> decide +kernel

theorem visits_operate : ∀ t ∈ visits, t.Operates fun a => a.LaidOut trio ∧ a.Acyclic := by
  simp [visits, Step.Operates, office_laidOut, office_acyclic]

end Sample

end ServiceContainer
