import ServiceContainer.Proofs.Frame
import ServiceContainer.Proofs.NewScopes

/-!
# The numbers of scopes in use

A stage is numbered when every name is of one handle, and all scopes that handles lead to or that have ended have
numbers that were given out. Every step keeps it so, whatever the handles are put together from, and hence every run
does.

## Main definitions

* `Stage.Numbered` — the invariant

## Main statements

* `Handle.createScope_numbers` — new scopes have numbers that were just given out
* `Stage.Numbered.put`, `Stage.Numbered.drop` — handles that get names and that are let go
* `Stage.numbered_run` — the invariant holds after every run
-/

namespace ServiceContainer

/-! ### Requests and new scopes -/

section

variable {w : World} {h : Handle}

mutual

/-- What the providers inside a handle lead to, the handle leads to. -/
theorem Handle.bases_subset : ∀ (h : Handle), ∀ b ∈ h.bases, b.scopeIds ⊆ h.scopeIds
  | .root _ _, b, hb => List.mem_singleton.mp hb ▸ List.Subset.refl _
  | .scoped _ _ _, b, hb => List.mem_singleton.mp hb ▸ List.Subset.refl _
  | .scope id owner inner, b, hb => by
    rw [Handle.scopeIds_scope]
    exact List.subset_cons_of_subset id (Handle.bases_subset inner b hb)
  | .composed parts, b, hb => basesOf_subset parts b hb
  | .foreign _, b, hb => List.mem_singleton.mp hb ▸ List.Subset.refl _

theorem basesOf_subset : ∀ (hs : List Handle), ∀ b ∈ basesOf hs, b.scopeIds ⊆ (Handle.composed hs).scopeIds
  | [], _, hb => nomatch hb
  | h :: rest, b, hb => by
    rw [Handle.scopeIds_composed_cons]
    rw [basesOf] at hb
    rcases List.mem_append.mp hb with hb | hb
    · exact List.subset_append_of_subset_left _ (Handle.bases_subset h b hb)
    · exact List.subset_append_of_subset_right _ (basesOf_subset rest b hb)

end

/-- A new scope has numbers that were just given out, but for the scopes that the providers inside lead to. -/
theorem Handle.Fresh.scopeId_lt {n m : Nat} (hh : h.Fresh n) (hle : n ≤ m) (hlayers : ∀ id ∈ h.layers, id < m) :
    ∀ id ∈ h.scopeIds, id < m := by
  intro id hid
  by_cases hlt : id < n
  · exact Nat.lt_of_lt_of_le hlt hle
  · refine hlayers id ?_
    rw [← hh.scopeIds_high]
    exact List.mem_filter.mpr ⟨hid, decide_eq_true (Nat.le_of_not_lt hlt)⟩

/-- Creating a scope gives out numbers. -/
theorem Handle.createScope_numbers (hh : ∀ id ∈ h.scopeIds, id < w.nextScope) :
    w.nextScope ≤ (h.createScope w).2.nextScope ∧ (h.createScope w).2.ended = w.ended ∧
      ∀ id ∈ (h.createScope w).1.scopeIds, id < (h.createScope w).2.nextScope := by
  have hopens := h.opens (Nat.le_refl w.nextScope) fun b hb id hid => hh id (h.bases_subset b hb hid)
  have hfresh := hopens.fresh _ (List.mem_singleton_self _)
  have hended : (h.createScope w).2.ended = w.ended := by
    rw [hopens.world]
    rfl
  refine ⟨hopens.le, hended, hfresh.scopeId_lt hopens.le fun id hid => ?_⟩
  exact (hopens.bounds id (by rwa [layersOf_singleton])).2

/-- A scope around a handle has a number that was just given out. -/
theorem Handle.newScope_numbers {owner : Bool} (hh : ∀ id ∈ h.scopeIds, id < w.nextScope) :
    ∀ id ∈ (Handle.scope w.newScope.1 owner h).scopeIds, id < w.newScope.2.nextScope := by
  rw [Handle.scopeIds_scope, List.forall_mem_cons]
  exact ⟨Nat.lt_succ_self _, fun id hid => Nat.lt_succ_of_lt (hh id hid)⟩

/-- A computation that does not depend on scopes leaves them as they are. -/
theorem Attempt.Blind.frame {α : Type} {m : Attempt α} (hm : m.Blind) {w w' : World} {r : Except DependencyError α}
    (hrun : m.run w = some (r, w')) : w'.nextScope = w.nextScope ∧ w'.ended = w.ended := by
  have hsame := hm w w.nextScope w.ended
  rw [World.withScopes_self, hrun] at hsame
  have heq : w' = w'.withScopes w.nextScope w.ended := (Prod.mk.inj (Option.some.inj hsame)).2
  rw [heq]
  exact ⟨rfl, rfl⟩

end

/-! ### Numbered stages -/

namespace Stage

variable {s : Stage} {w' : World} {ids : List Nat} {name : String} {h : Handle}

/-- Every name is of one handle, and the numbers of all scopes were given out. -/
structure Numbered (s : Stage) : Prop where
  names : (s.handles.map (·.1)).Nodup
  scope_lt : ∀ id ∈ s.scopeIds, id < s.world.nextScope
  ended_lt : ∀ id ∈ s.world.ended, id < s.world.nextScope

theorem put_endsOnly (s : Stage) (name : String) (h : Handle) :
    s.world.EndsOnly (s.scopeIdsOf name) (s.put name h).world := by
  rw [put, scopeIdsOf]
  split
  next old hold =>
    rw [hold]
    exact release_endsOnly old s.world _
  next hnone => exact .refl _ _

theorem scopeIds_without_subset (s : Stage) (name : String) : (s.take name).scopeIds ⊆ s.scopeIds :=
  scopeIds_subset (without_sublist s name).subset

theorem mem_scopeIds_put {id : Nat} (hid : id ∈ (s.put name h).scopeIds) :
    id ∈ (s.take name).scopeIds ∨ id ∈ h.scopeIds := by
  rw [scopeIds, put_handles] at hid
  have hmem : id ∈ (Stage.mk s.world (s.without name ++ [(name, h)])).scopeIds := hid
  rw [scopeIds_append] at hmem
  exact List.mem_append.mp hmem

namespace Numbered

/-- Numbers may be given out. -/
theorem of_world (hs : s.Numbered) (hle : s.world.nextScope ≤ w'.nextScope) (hended : w'.ended = s.world.ended) :
    (Stage.mk w' s.handles).Numbered where
  names := hs.names
  scope_lt id hid := Nat.lt_of_lt_of_le (hs.scope_lt id hid) hle
  ended_lt id hid := Nat.lt_of_lt_of_le (hs.ended_lt id (hended ▸ hid)) hle

theorem newStore (hs : s.Numbered) : (Stage.mk s.world.newStore.2 s.handles).Numbered :=
  hs.of_world (Nat.le_refl _) rfl

theorem newScope (hs : s.Numbered) : (Stage.mk s.world.newScope.2 s.handles).Numbered :=
  hs.of_world (Nat.le_succ _) rfl

/-- Scopes may end. -/
theorem endsOnly (hs : s.Numbered) (hw : s.world.EndsOnly ids w') (hids : ids ⊆ s.scopeIds) :
    (Stage.mk w' s.handles).Numbered where
  names := hs.names
  scope_lt id hid := by
    rw [hw.nextScope]
    exact hs.scope_lt id hid
  ended_lt id hid := by
    rw [hw.nextScope]
    exact (hw.only id hid).elim (hs.ended_lt id) fun hid => hs.scope_lt id (hids hid)

theorem take (hs : s.Numbered) (name : String) : (s.take name).Numbered where
  names := hs.names.sublist ((without_sublist s name).map _)
  scope_lt id hid := hs.scope_lt id (scopeIds_without_subset s name hid)
  ended_lt := hs.ended_lt

/-- A handle gets a name. -/
theorem put (hs : s.Numbered) (hids : ∀ id ∈ h.scopeIds, id < s.world.nextScope) (name : String) :
    (s.put name h).Numbered := by
  have hends := s.put_endsOnly name h
  refine ⟨?_, fun id hid => ?_, fun id hid => ?_⟩
  · rw [put_handles]
    exact nodup_names_put hs.names name h
  · rw [hends.nextScope]
    exact (mem_scopeIds_put hid).elim (fun hid => hs.scope_lt id (scopeIds_without_subset s name hid)) (hids id)
  · rw [hends.nextScope]
    exact (hends.only id hid).elim (hs.ended_lt id) fun hid => hs.scope_lt id (s.scopeIdsOf_subset name hid)

theorem drop (hs : s.Numbered) (hh : s.handle? name = some h) : (s.drop name h).Numbered := by
  have hends := hs.endsOnly (release_endsOnly h s.world ((s.without name).map (·.2)))
    (mem_scopeIds (handle?_eq_some hh))
  exact hends.take name

theorem dispose (hs : s.Numbered) (hh : s.handle? name = some h) :
    (Stage.mk (h.dispose s.world) s.handles).Numbered :=
  hs.endsOnly (h.dispose_endsOnly s.world)
    (List.Subset.trans h.layers_subset (mem_scopeIds (handle?_eq_some hh)))

theorem lt_of_handle? (hs : s.Numbered) (hh : s.handle? name = some h) : ∀ id ∈ h.scopeIds, id < s.world.nextScope :=
  fun id hid => hs.scope_lt id (mem_scopeIds (handle?_eq_some hh) hid)

/-- A new scope gets a name. -/
theorem put_createScope (hs : s.Numbered) (hh : ∀ id ∈ h.scopeIds, id < s.world.nextScope) (name : String) :
    ((Stage.mk (h.createScope s.world).2 s.handles).put name (h.createScope s.world).1).Numbered := by
  obtain ⟨hle, hended, hids⟩ := Handle.createScope_numbers hh
  exact (hs.of_world hle hended).put hids name

theorem takeAll? (hs : s.Numbered) {names : List String} {taken : Stage} {parts : List Handle}
    (h : s.takeAll? names = some (taken, parts)) :
    taken.Numbered ∧ ∀ id ∈ (Handle.composed parts).scopeIds, id < taken.world.nextScope := by
  obtain ⟨hworld, hsub, hparts⟩ := takeAll?_eq_some h
  rw [hworld]
  refine ⟨⟨hs.names.sublist (hsub.map _), fun id hid => ?_, fun id hid => ?_⟩, fun id hid => ?_⟩
  · rw [hworld]
    exact hs.scope_lt id (scopeIds_subset hsub.subset hid)
  · rw [hworld] at hid ⊢
    exact hs.ended_lt id hid
  · obtain ⟨x, hx, rfl⟩ := List.mem_map.mp hid
    obtain ⟨p, hp, hx⟩ := Handle.mem_scopes_composed.mp hx
    obtain ⟨y, hy, rfl⟩ := hparts p hp
    exact hs.scope_lt x.1 (mem_scopeIds hy (List.mem_map_of_mem hx))

theorem request (hs : s.Numbered) {m : Attempt (Option Nat)} (hm : m.Blind) : (s.request m).1.Numbered := by
  rw [Stage.request]
  split
  next r w' hrun =>
    obtain ⟨hnext, hended⟩ := hm.frame hrun
    exact hs.of_world (Nat.le_of_eq hnext.symm) hended
  next => exact hs

theorem onHandle (hs : s.Numbered) {f : Handle → Stage × Outcome}
    (hf : ∀ h, s.handle? name = some h → (f h).1.Numbered) : (s.onHandle name f).1.Numbered := by
  rw [Stage.onHandle]
  split
  next h hh => exact hf h hh
  next => exact hs

/-- Every step keeps a stage numbered. -/
theorem perform (hs : s.Numbered) (t : Step) : (s.perform t).1.Numbered := by
  cases t with
  | root a name =>
    refine hs.newStore.put (fun id hid => ?_) name
    exact nomatch hid
  | clone source name =>
    refine hs.onHandle fun h hh => ?_
    cases h with
    | root a store =>
      refine hs.put (fun id hid => ?_) name
      exact nomatch hid
    | _ => exact hs
  | foreign f name =>
    refine hs.put (fun id hid => ?_) name
    exact nomatch hid
  | scope source name => exact hs.onHandle fun h hh => hs.put_createScope (hs.lt_of_handle? hh) name
  | innerScope source name =>
    refine hs.onHandle fun h hh => ?_
    cases h with
    | scope id owner inner =>
      have hids := hs.lt_of_handle? hh
      rw [Handle.scopeIds_scope] at hids
      exact hs.put_createScope (List.forall_mem_cons.mp hids).2 name
    | _ => exact hs
  | own source name =>
    exact hs.onHandle fun h hh => (hs.take source).newScope.put (Handle.newScope_numbers (hs.lt_of_handle? hh)) name
  | nest source name =>
    exact hs.onHandle fun h hh => hs.newScope.put (Handle.newScope_numbers (hs.lt_of_handle? hh)) name
  | compose sources name =>
    rw [Stage.perform]
    split
    next taken parts htake =>
      obtain ⟨htaken, hparts⟩ := hs.takeAll? htake
      exact htaken.put hparts name
    next => exact hs
  | get source type => exact hs.onHandle fun h _ => hs.request (h.blind_get type)
  | require source type =>
    refine hs.onHandle fun h _ => hs.request ?_
    rw [map_eq_pure_bind]
    exact (h.blind_require type).bind fun _ => .pure _
  | dispose source => exact hs.onHandle fun h hh => hs.dispose hh
  | finish source =>
    refine hs.onHandle fun h hh => ?_
    cases h with
    | scope id owner inner =>
      dsimp only
      split
      · exact hs
      · exact hs.drop hh
    | _ => exact hs
  | drop source => exact hs.onHandle fun h hh => hs.drop hh
  | inspect source =>
    refine hs.onHandle fun h hh => ?_
    cases h <;> exact hs
  | _ =>
    refine hs.onHandle fun h hh => hs.newStore.put (fun id hid => ?_) _
    exact hs.lt_of_handle? hh id hid

theorem run (hs : s.Numbered) (steps : List Step) : (s.run steps).Numbered := by
  induction steps generalizing s with
  | nil => exact hs
  | cons t rest ih => exact ih (hs.perform t)

end Numbered

/-- The numbers of all scopes were given out, after every run of any steps. -/
theorem numbered_run (steps : List Step) : (({} : Stage).run steps).Numbered := by
  have hempty : ({} : Stage).Numbered := ⟨.nil, nofun, nofun⟩
  exact hempty.run steps

end Stage

end ServiceContainer
