import ServiceContainer.Proofs.Census

/-!
# Ending scopes

Disposing of a handle, or letting it go, ends scopes and disposes of the instances of some providers. Which scopes end
determines what is disposed of: each scope that ends for the first time adds the instances of the provider that it
owns, once, and apart from that only root providers that the handle leads to directly are disposed of.

## Main definitions

* `World.due` — the instances that a provider disposes of
* `World.Ends` — some scopes end, and some providers are disposed of
* `Handle.Closed` — inside a scope that has ended, all scopes have

## Main statements

* `Handle.Regular.disposes` — what disposal does
* `Handle.Regular.release` — what letting go does
-/

namespace ServiceContainer

/-- The instances in the cells that a provider disposes of, in order. -/
def World.due (w : World) (k : Keeper) : List Nat := k.provider.disposals.filterMap (w.cell? k.store)

mutual

/-- The root providers that a handle disposes of, which are not inside a scope. -/
def Handle.roots : Handle → List Keeper
  | .root a s => [⟨a, s, none⟩]
  | .composed parts => rootsOf parts
  | .scoped _ _ _ | .scope _ _ _ | .foreign _ => []

/-- The root providers that some handles dispose of. -/
def rootsOf : List Handle → List Keeper
  | [] => []
  | h :: rest => h.roots ++ rootsOf rest

end

/-- Some scopes end for the first time, and some providers are disposed of: those that the scopes own, and some root
providers. -/
structure World.Ends (c : Census) (roots : List Keeper) (w : World) (ended : List Nat) (disposed : List Keeper)
    (w' : World) : Prop where
  result : w' = { w with ended := w.ended ++ ended, disposals := w.disposals ++ disposed.flatMap w.due }
  nodup : ended.Nodup
  fresh : ∀ id ∈ ended, id ∉ w.ended
  owned : disposed.filter (·.scope.isSome) = ended.filterMap c.owned
  roots : disposed.filter (·.scope.isNone) = roots

variable {c : Census} {w w' w'' : World} {h : Handle}

namespace World

theorem Ends.refl (c : Census) (w : World) : w.Ends c [] [] [] w :=
  ⟨by simp, .nil, by simp, rfl, rfl⟩

theorem Ends.trans {roots roots' : List Keeper} {ended ended' : List Nat} {disposed disposed' : List Keeper}
    (h : w.Ends c roots ended disposed w') (h' : w'.Ends c roots' ended' disposed' w'') :
    w.Ends c (roots ++ roots') (ended ++ ended') (disposed ++ disposed') w'' where
  result := by
    have hdue : w'.due = w.due := by rw [h.result]; rfl
    rw [h'.result, hdue, h.result]
    simp
  nodup := by
    refine h.nodup.append h'.nodup fun id hid hid' => h'.fresh id hid' ?_
    rw [h.result]
    exact List.mem_append_right _ hid
  fresh id hid := by
    rcases List.mem_append.mp hid with hid | hid
    · exact h.fresh id hid
    · intro hmem
      refine h'.fresh id hid ?_
      rw [h.result]
      exact List.mem_append_left _ hmem
  owned := by rw [List.filter_append, h.owned, h'.owned, List.filterMap_append]
  roots := by rw [List.filter_append, h.roots, h'.roots]

/-- Every provider that is disposed of is a root provider in question, or one that an ended scope owns. -/
theorem mem_roots_or_owned {roots : List Keeper} {ended : List Nat} {disposed : List Keeper}
    (howned : disposed.filter (·.scope.isSome) = ended.filterMap c.owned)
    (hroots : disposed.filter (·.scope.isNone) = roots) {k : Keeper} (hk : k ∈ disposed) :
    k ∈ roots ∧ k.scope = none ∨ ∃ id ∈ ended, c.owned id = some k := by
  cases hscope : k.scope with
  | none => exact .inl ⟨hroots ▸ List.mem_filter.mpr ⟨hk, by rw [hscope]; rfl⟩, rfl⟩
  | some n =>
    have hmem : k ∈ disposed.filter (·.scope.isSome) := List.mem_filter.mpr ⟨hk, by rw [hscope]; rfl⟩
    rw [howned] at hmem
    exact .inr (List.mem_filterMap.mp hmem)

theorem Ends.ended_subset {roots : List Keeper} {ended : List Nat} {disposed : List Keeper}
    (h : w.Ends c roots ended disposed w') : w.ended ⊆ w'.ended := by
  rw [h.result]
  exact List.subset_append_left _ _

/-- One scope ends. -/
theorem ends_scope {id : Nat} (hid : id ∉ w.ended) (hknown : c.owned id = none) :
    w.Ends c [] [id] [] { w with ended := w.ended ++ [id] } :=
  ⟨by simp, List.nodup_singleton id, by simpa using hid, by simp [hknown], rfl⟩

end World

theorem Keeper.dispose_handle (k : Keeper) (w : World) :
    k.handle.dispose w = { w with disposals := w.disposals ++ w.due k } := by
  obtain ⟨a, s, _ | n⟩ := k <;> rw [Keeper.handle, Handle.dispose] <;> rfl

theorem Handle.dispose_scope (id : Nat) (owner : Bool) (inner : Handle) (w : World) :
    (Handle.scope id owner inner).dispose w =
      if id ∈ w.ended then w
      else if owner then inner.dispose { w with ended := w.ended ++ [id] }
      else { w with ended := w.ended ++ [id] } := by
  rw [Handle.dispose]
  simp only [List.contains_iff_mem]

/-! ### Disposal -/

/-- The numbers of the scopes that a handle leads to. -/
def Handle.scopeIds (h : Handle) : List Nat := h.scopes.map (·.1)

theorem Handle.scopeIds_composed_cons (p : Handle) (rest : List Handle) :
    (Handle.composed (p :: rest)).scopeIds = p.scopeIds ++ (Handle.composed rest).scopeIds := by
  simp [Handle.scopeIds, Handle.scopes, scopesOf]

theorem Handle.scopeIds_scope (id : Nat) (owner : Bool) (inner : Handle) :
    (Handle.scope id owner inner).scopeIds = id :: inner.scopeIds := by
  rw [Handle.scopeIds, Handle.scopes, List.map_cons, Handle.scopeIds]

theorem Handle.scopeIds_subset_composed {parts : List Handle} {p : Handle} (hp : p ∈ parts) :
    p.scopeIds ⊆ (Handle.composed parts).scopeIds := by
  intro id hid
  obtain ⟨x, hx, rfl⟩ := List.mem_map.mp hid
  exact List.mem_map_of_mem (Handle.mem_scopes_composed.mpr ⟨p, hp, hx⟩)

/-- What disposing of a handle does. -/
def Handle.Disposes (c : Census) (h : Handle) : Prop :=
  ∀ w : World, ∃ ended disposed, w.Ends c h.roots ended disposed (h.dispose w) ∧ ended ⊆ h.scopeIds

theorem disposes_composed {parts : List Handle} (ih : ∀ h ∈ parts, h.Disposes c) :
    (Handle.composed parts).Disposes c := by
  induction parts with
  | nil =>
    intro w
    rw [Handle.dispose, disposeParts, Handle.roots, rootsOf]
    exact ⟨[], [], .refl c w, List.nil_subset _⟩
  | cons p rest ihrest =>
    intro w
    obtain ⟨E, L, hp, hsub⟩ := ih p List.mem_cons_self w
    obtain ⟨E', L', hrest, hsub'⟩ := ihrest (fun q hq => ih q (List.mem_cons_of_mem p hq)) (p.dispose w)
    rw [Handle.dispose, Handle.roots] at hrest
    rw [Handle.dispose, disposeParts, Handle.roots, rootsOf, Handle.scopeIds_composed_cons]
    exact ⟨E ++ E', L ++ L', hp.trans hrest, List.append_subset.mpr
      ⟨List.subset_append_of_subset_left _ hsub, List.subset_append_of_subset_right _ hsub'⟩⟩

theorem rootsOf_eq_nil {parts : List Handle} (h : ∀ p ∈ parts, p.IsScope) : rootsOf parts = [] := by
  induction parts with
  | nil => rfl
  | cons p rest ih =>
    rw [rootsOf, ih fun q hq => h q (List.mem_cons_of_mem p hq), List.append_nil]
    have hp := h p List.mem_cons_self
    cases p <;> first | rfl | exact hp.elim

theorem Handle.Regular.disposes (hh : h.Regular c) : h.Disposes c := by
  induction hh with
  | @root k _ isRoot =>
    intro w
    rw [Keeper.dispose_handle]
    obtain ⟨a, s, _ | n⟩ := k
    · exact ⟨[], [⟨a, s, none⟩], ⟨by simp, .nil, by simp, rfl, rfl⟩, List.nil_subset _⟩
    · exact nomatch isRoot
  | @scope k id owner _ inScope known =>
    intro w
    rw [Handle.dispose_scope, Handle.roots, Handle.scopeIds_scope]
    split
    · exact ⟨[], [], .refl c w, List.nil_subset _⟩
    next hid =>
      cases owner with
      | false =>
        have hnone : c.owned id = none := by rw [Census.owned, known]; rfl
        exact ⟨[id], [], World.ends_scope hid hnone, by simp⟩
      | true =>
        have hsome : c.owned id = some k := by rw [Census.owned, known]; rfl
        rw [if_pos rfl, Keeper.dispose_handle]
        refine ⟨[id], [k], ⟨by rw [List.flatMap_singleton]; rfl, List.nodup_singleton id,
          by simpa using hid, ?_, ?_⟩, by simp⟩
        · simp [hsome, inScope]
        · simp [Option.isSome_iff_ne_none.mp inScope]
  | @group id parts regular scopes known ih =>
    intro w
    have hnone : c.owned id = none := by rw [Census.owned, known]; rfl
    rw [Handle.dispose_scope, Handle.roots, Handle.scopeIds_scope]
    split
    · exact ⟨[], [], .refl c w, List.nil_subset _⟩
    next hid =>
      obtain ⟨E, L, hparts, hsub⟩ := disposes_composed ih { w with ended := w.ended ++ [id] }
      rw [Handle.roots, rootsOf_eq_nil scopes] at hparts
      rw [if_pos rfl]
      exact ⟨id :: E, L, (World.ends_scope hid hnone).trans hparts, List.cons_subset_cons id hsub⟩
  | composed _ ih => exact disposes_composed ih

/-! ### Everything inside ends -/

theorem Handle.ended_subset_dispose (hh : h.Regular c) (w : World) : w.ended ⊆ (h.dispose w).ended := by
  obtain ⟨E, L, hends, -⟩ := hh.disposes w
  exact hends.ended_subset

/-- Inside a scope that has ended, all scopes have ended. -/
def Handle.Closed (ended : List Nat) (h : Handle) : Prop :=
  ∀ x ∈ h.scopes, x.1 ∈ ended → ∀ id ∈ x.2.scopeIds, id ∈ ended

/-- The end of scopes elsewhere does not matter. -/
theorem Handle.Closed.append {ended more : List Nat} (hh : h.Closed ended)
    (hmore : ∀ id ∈ more, id ∉ h.scopeIds) : h.Closed (ended ++ more) := by
  intro x hx hid id hmem
  refine List.mem_append_left _ (hh x hx ?_ id hmem)
  rcases List.mem_append.mp hid with hid | hid
  · exact hid
  · exact absurd (List.mem_map_of_mem hx) (hmore _ hid)

theorem Handle.Closed.of_all {ended : List Nat} (hh : ∀ id ∈ h.scopeIds, id ∈ ended)
    (hsub : ∀ x ∈ h.scopes, x.2.scopeIds ⊆ h.scopeIds) : h.Closed ended :=
  fun x hx _ id hid => hh id (hsub x hx hid)

/-- A scope that a handle leads to leads to no others. -/
theorem Handle.Regular.scopeIds_subset (hh : h.Regular c) : ∀ x ∈ h.scopes, x.2.scopeIds ⊆ h.scopeIds := by
  induction hh with
  | root => simp
  | scope =>
    intro x hx
    rw [Handle.scopes, Keeper.scopes_handle, List.mem_singleton] at hx
    rw [hx]
    exact List.Subset.refl _
  | @group id parts _ _ _ ih =>
    intro x hx
    rw [Handle.scopes, List.mem_cons] at hx
    rcases hx with rfl | hx
    · exact List.Subset.refl _
    · obtain ⟨p, hp, hx⟩ := Handle.mem_scopes_composed.mp hx
      rw [Handle.scopeIds_scope]
      refine List.subset_cons_of_subset id ?_
      exact List.Subset.trans (ih p hp x hx) (Handle.scopeIds_subset_composed hp)
  | @composed parts _ ih =>
    intro x hx
    obtain ⟨p, hp, hx⟩ := Handle.mem_scopes_composed.mp hx
    exact List.Subset.trans (ih p hp x hx) (Handle.scopeIds_subset_composed hp)

theorem ended_disposeParts {parts : List Handle} (hparts : ∀ p ∈ parts, p.Regular c)
    (ih : ∀ p ∈ parts, ∀ w : World, p.scopeIds.Nodup → p.Closed w.ended → p.scopeIds ⊆ (p.dispose w).ended)
    (hdistinct : (Handle.composed parts).scopeIds.Nodup) (hclosed : ∀ p ∈ parts, p.Closed w.ended) :
    (Handle.composed parts).scopeIds ⊆ (disposeParts parts w).ended := by
  induction parts generalizing w with
  | nil => simp [Handle.scopeIds, Handle.scopes, scopesOf]
  | cons p rest ihrest =>
    rw [Handle.scopeIds_composed_cons] at hdistinct ⊢
    obtain ⟨hp, hrest, hdisjoint⟩ := List.nodup_append'.mp hdistinct
    obtain ⟨E, L, hends, hsub⟩ := (hparts p List.mem_cons_self).disposes w
    have hregular : ∀ q ∈ rest, q.Regular c := fun q hq => hparts q (List.mem_cons_of_mem p hq)
    -- What ends with the first part is inside it and hence inside no other.
    have hclosed' : ∀ q ∈ rest, q.Closed (p.dispose w).ended := by
      intro q hq
      rw [hends.result]
      refine (hclosed q (List.mem_cons_of_mem p hq)).append fun id hid hmem => ?_
      exact hdisjoint (hsub hid) (Handle.scopeIds_subset_composed hq hmem)
    have hlast := ihrest hregular (fun q hq => ih q (List.mem_cons_of_mem p hq)) hrest hclosed'
    rw [disposeParts]
    refine List.append_subset.mpr ⟨?_, hlast⟩
    refine List.Subset.trans (ih p List.mem_cons_self w hp (hclosed p List.mem_cons_self)) ?_
    exact Handle.ended_subset_dispose (.composed hregular) (p.dispose w)

/-- After disposal all scopes that the handle leads to have ended. -/
theorem Handle.Regular.ended_dispose (hh : h.Regular c) (w : World) (hdistinct : h.scopeIds.Nodup)
    (hclosed : h.Closed w.ended) : h.scopeIds ⊆ (h.dispose w).ended := by
  induction hh generalizing w with
  | root => simp [Handle.scopeIds]
  | @scope k id owner _ _ known =>
    rw [Handle.scopeIds_scope, Handle.dispose_scope, Handle.scopeIds, Keeper.scopes_handle, List.map_nil]
    refine List.cons_subset.mpr ⟨?_, List.nil_subset _⟩
    split
    next hid => exact hid
    next hid => cases owner <;> simp [Keeper.dispose_handle]
  | @group id parts regular scopes known ih =>
    rw [Handle.dispose_scope]
    split
    next hid => exact hclosed _ List.mem_cons_self hid
    next hid =>
      rw [Handle.scopeIds_scope, List.nodup_cons] at hdistinct
      -- The scope is marked before its parts are disposed of; its number is not one of theirs.
      have hparts : (Handle.composed parts).Closed (w.ended ++ [id]) := by
        have hinner : (Handle.composed parts).Closed w.ended := fun x hx => hclosed x (List.mem_cons_of_mem _ hx)
        exact hinner.append (by simpa using hdistinct.1)
      have hall := ended_disposeParts (w := { w with ended := w.ended ++ [id] }) regular ih hdistinct.2
        fun p hp x hx => hparts x (Handle.mem_scopes_composed.mpr ⟨p, hp, hx⟩)
      rw [if_pos rfl, Handle.dispose, Handle.scopeIds_scope]
      refine List.cons_subset.mpr ⟨?_, hall⟩
      have hmono := Handle.ended_subset_dispose (.composed regular) { w with ended := w.ended ++ [id] }
      rw [Handle.dispose] at hmono
      exact hmono (List.mem_append_right _ (List.mem_singleton_self id))
  | @composed parts regular ih =>
    rw [Handle.dispose]
    exact ended_disposeParts regular ih hdistinct
      fun p hp x hx => hclosed x (Handle.mem_scopes_composed.mpr ⟨p, hp, hx⟩)

/-! ### Letting go -/

theorem lastOccurrences_subset (xs : List (Nat × Handle)) : lastOccurrences xs ⊆ xs := by
  induction xs with
  | nil => exact List.nil_subset _
  | cons x rest ih =>
    rw [lastOccurrences]
    split
    · exact List.subset_cons_of_subset x ih
    · exact List.cons_subset_cons x ih

theorem exists_mem_lastOccurrences {xs : List (Nat × Handle)} {x : Nat × Handle} (hx : x ∈ xs) :
    ∃ y ∈ lastOccurrences xs, y.1 = x.1 := by
  induction xs generalizing x with
  | nil => exact nomatch hx
  | cons y rest ih =>
    rw [lastOccurrences]
    split
    next hlater =>
      rcases List.mem_cons.mp hx with rfl | hx
      · obtain ⟨z, hz, heq⟩ := List.any_eq_true.mp hlater
        obtain ⟨u, hu, hzu⟩ := ih hz
        exact ⟨u, hu, hzu.trans (beq_iff_eq.mp heq)⟩
      · exact ih hx
    next =>
      rcases List.mem_cons.mp hx with rfl | hx
      · exact ⟨x, List.mem_cons_self, rfl⟩
      · obtain ⟨u, hu, hux⟩ := ih hx
        exact ⟨u, List.mem_cons_of_mem y hu, hux⟩

/-- A scope that is disposed of has ended. -/
theorem Handle.mem_ended_dispose {id : Nat} {owner : Bool} {inner : Handle}
    (hh : (Handle.scope id owner inner).Regular c) (w : World) :
    id ∈ ((Handle.scope id owner inner).dispose w).ended := by
  rw [Handle.dispose_scope]
  split
  next hid => exact hid
  next =>
    rcases hh.of_scope with ⟨k, rfl, -, -⟩ | ⟨parts, rfl, rfl, regular, -⟩
    · cases owner <;> simp [Keeper.dispose_handle]
    · exact Handle.ended_subset_dispose (.composed regular) { w with ended := w.ended ++ [id] }
        (List.mem_append_right _ (List.mem_singleton_self id))

/-- Disposing of scopes in order. -/
theorem ends_foldl {gone : List (Nat × Handle)}
    (hgone : ∀ x ∈ gone, x.2.Regular c ∧ ∃ owner inner, x.2 = .scope x.1 owner inner) (w : World) :
    (∃ ended disposed, w.Ends c [] ended disposed (gone.foldl (fun w s => s.2.dispose w) w) ∧
      ended ⊆ gone.flatMap fun x => x.2.scopeIds) ∧
    ∀ x ∈ gone, x.1 ∈ (gone.foldl (fun w s => s.2.dispose w) w).ended := by
  induction gone generalizing w with
  | nil => exact ⟨⟨[], [], .refl c w, List.nil_subset _⟩, fun _ h => nomatch h⟩
  | cons x rest ih =>
    obtain ⟨hregular, owner, inner, heq⟩ := hgone x List.mem_cons_self
    obtain ⟨⟨E', L', hrest, hsub'⟩, hall⟩ := ih (fun y hy => hgone y (List.mem_cons_of_mem x hy)) (x.2.dispose w)
    obtain ⟨E, L, hx, hsub⟩ := hregular.disposes w
    have hroots : x.2.roots = [] := by rw [heq, Handle.roots]
    rw [hroots] at hx
    refine ⟨⟨E ++ E', L ++ L', hx.trans hrest, ?_⟩, List.forall_mem_cons.mpr ⟨hrest.ended_subset ?_, hall⟩⟩
    · rw [List.flatMap_cons]
      exact List.append_subset.mpr
        ⟨List.subset_append_of_subset_left _ hsub, List.subset_append_of_subset_right _ hsub'⟩
    · have hmem := Handle.mem_ended_dispose (heq ▸ hregular) w
      rwa [← heq] at hmem

/-- Letting a handle go ends the scopes that no other handle leads to, and disposes of what they own. -/
theorem Handle.Regular.release (hh : h.Regular c) (w : World) (remaining : List Handle) :
    (∃ ended disposed, w.Ends c [] ended disposed (w.release h remaining) ∧ ended ⊆ h.scopeIds) ∧
    ∀ id ∈ h.scopeIds, id ∉ (scopesOf remaining).map (·.1) → id ∈ (w.release h remaining).ended := by
  -- A scope that the handle leads to on two ways is disposed of on the last one.
  have hgone : ∀ x ∈ (lastOccurrences h.scopes).filter fun s => !((scopesOf remaining).map (·.1)).contains s.1,
      x ∈ h.scopes := fun x hx => lastOccurrences_subset _ (List.mem_filter.mp hx).1
  obtain ⟨⟨E, L, hends, hsub⟩, hall⟩ := ends_foldl (c := c)
    (fun x hx => hh.of_mem_scopes (hgone x hx)) w
  refine ⟨⟨E, L, hends, List.Subset.trans hsub fun id hid => ?_⟩, fun id hid hkept => ?_⟩
  · obtain ⟨x, hx, hid⟩ := List.mem_flatMap.mp hid
    exact hh.scopeIds_subset x (hgone x hx) hid
  · obtain ⟨x, hx, rfl⟩ := List.mem_map.mp hid
    obtain ⟨y, hy, heq⟩ := exists_mem_lastOccurrences hx
    rw [← heq] at hkept ⊢
    exact hall y (List.mem_filter.mpr ⟨hy, by simpa [List.contains_iff_mem] using hkept⟩)

end ServiceContainer
