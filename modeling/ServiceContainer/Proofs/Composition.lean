import Mathlib.Data.List.Forall2
import ServiceContainer.Proofs.Numbering

/-!
# Composition is associative

A composition whose parts are grouped into a composition of their own behaves as the composition of all parts in a
row: the empty group is no exception. The two answer alike, since they have the same providers inside. A new scope on
the one has one scope more than on the other for every group, so the numbers of scopes come apart, and the trees of
scopes have different shapes; but each tree ends as a whole, and then the providers inside are disposed of in the same
order. So runs on both go side by side, and nothing but the numbers of scopes tells them apart. The parts may be
providers from outside with any code, which can reply by the calls before and the instances that they made.

The code of services is assumed to ask for the same types on every making, whatever the answers are
(`Assembly.requests`).

## Main definitions

* `World.Alike` — worlds that differ in new scopes only
* `Handle.Regrouped`, `Handle.Paired` — handles that belong together in the two runs
* `Stage.Matches` — the simulation
* `Stage.Equivalent` — nothing that is done tells two stages apart

## Main statements

* `Handle.Paired.release` — letting go of handles that belong together
* `Stage.Matches.perform` — steps go side by side
* `Stage.composed_assoc` — a group in a composition makes no difference
-/

namespace ServiceContainer

/-! ### Worlds that differ in new scopes -/

/-- The worlds are the same but for the scopes with numbers from `n` on. -/
structure World.Alike (n : Nat) (w w' : World) : Prop where
  same : w' = w.withScopes w'.nextScope w'.ended
  low : ∀ id < n, id ∈ w.ended ↔ id ∈ w'.ended

section

variable {n : Nat} {w w' : World} {h : Handle}

theorem World.Alike.exists_eq (h : w.Alike n w') :
    ∃ next ended, w' = w.withScopes next ended ∧ ∀ id < n, id ∈ w.ended ↔ id ∈ ended :=
  ⟨_, _, h.same, h.low⟩

/-- The same scope ends. -/
theorem World.Alike.end_ (h : w.Alike n w') (id : Nat) :
    World.Alike n { w with ended := w.ended ++ [id] } { w' with ended := w'.ended ++ [id] } := by
  obtain ⟨next, ended, rfl, hlow⟩ := h.exists_eq
  refine ⟨rfl, fun i hi => ?_⟩
  change i ∈ w.ended ++ [id] ↔ i ∈ ended ++ [id]
  rw [List.mem_append, List.mem_append, hlow i hi]

theorem Handle.IsBase.dispose_alike (hh : h.IsBase) (hw : w.Alike n w') : (h.dispose w).Alike n (h.dispose w') := by
  obtain ⟨next, ended, rfl, hlow⟩ := hw.exists_eq
  have hended : (h.dispose w).ended = w.ended := by cases h <;> first | rfl | exact hh.elim
  rw [hh.dispose_withScopes]
  refine ⟨rfl, fun i hi => ?_⟩
  rw [hended]
  exact hlow i hi

mutual

/-- Old scopes end alike. -/
theorem Handle.dispose_alike : ∀ (h : Handle) {w w' : World}, w.Alike n w' → (∀ id ∈ h.layers, id < n) →
    (h.dispose w).Alike n (h.dispose w')
  | .root _ _, _, _, hw, _ => Handle.IsBase.dispose_alike trivial hw
  | .scoped _ _ _, _, _, hw, _ => Handle.IsBase.dispose_alike trivial hw
  | .scope id owner inner, w, w', hw, hlow => by
    rw [Handle.layers, List.forall_mem_cons] at hlow
    have hiff := hw.low id hlow.1
    rw [Handle.dispose_scope, Handle.dispose_scope]
    by_cases hid : id ∈ w.ended
    · rw [if_pos hid, if_pos (hiff.mp hid)]
      exact hw
    · rw [if_neg hid, if_neg (hiff.not.mp hid)]
      cases owner with
      | false => exact hw.end_ id
      | true => exact Handle.dispose_alike inner (hw.end_ id) hlow.2
  | .composed parts, _, _, hw, hlow => disposeParts_alike parts hw hlow
  | .foreign _, _, _, hw, _ => Handle.IsBase.dispose_alike trivial hw

theorem disposeParts_alike : ∀ (hs : List Handle) {w w' : World}, w.Alike n w' → (∀ id ∈ layersOf hs, id < n) →
    (disposeParts hs w).Alike n (disposeParts hs w')
  | [], _, _, hw, _ => hw
  | h :: rest, _, _, hw, hlow => by
    rw [layersOf, List.forall_mem_append] at hlow
    rw [disposeParts, disposeParts]
    exact disposeParts_alike rest (Handle.dispose_alike h hw hlow.1) hlow.2

end

theorem disposeAll_alike {gone : List (Nat × Handle)} (hw : w.Alike n w')
    (hgone : ∀ x ∈ gone, ∀ id ∈ x.2.layers, id < n) : (disposeAll gone w).Alike n (disposeAll gone w') := by
  induction gone generalizing w w' with
  | nil => exact hw
  | cons x rest ih =>
    obtain ⟨hx, hrest⟩ := List.forall_mem_cons.mp hgone
    exact ih (x.2.dispose_alike hw hx) hrest

end

/-! ### Handles that belong together -/

/-- The handles are the same, or two compositions of the same parts, some of which are grouped in the first one. -/
inductive Handle.Regrouped : Handle → Handle → Prop where
  | same (h : Handle) : Regrouped h h
  | group (xs ys zs : List Handle) : Regrouped (.composed (xs ++ [.composed ys] ++ zs)) (.composed (xs ++ ys ++ zs))

theorem scopesOf_append (hs gs : List Handle) : scopesOf (hs ++ gs) = scopesOf hs ++ scopesOf gs := by
  rw [scopesOf_eq, scopesOf_eq, scopesOf_eq, List.flatMap_append]

theorem disposeParts_append (hs gs : List Handle) (w : World) :
    disposeParts (hs ++ gs) w = disposeParts gs (disposeParts hs w) := by
  induction hs generalizing w with
  | nil => rfl
  | cons h rest ih => rw [List.cons_append, disposeParts, disposeParts, ih]

namespace Handle.Regrouped

variable {h h' : Handle}

theorem bases_eq (hh : h.Regrouped h') : h.bases = h'.bases := by
  cases hh with
  | same => rfl
  | group xs ys zs => simp only [Handle.bases, basesOf_append, basesOf_singleton]

theorem scopes_eq (hh : h.Regrouped h') : h.scopes = h'.scopes := by
  cases hh with
  | same => rfl
  | group xs ys zs => simp only [Handle.scopes, scopesOf_append, scopesOf, List.append_nil]

theorem dispose_eq (hh : h.Regrouped h') (w : World) : h.dispose w = h'.dispose w := by
  cases hh with
  | same => rfl
  | group xs ys zs => simp only [Handle.dispose, disposeParts_append, disposeParts]

end Handle.Regrouped

/-- The handles of two runs belong together: they are old, and the same up to a group; or they are new scopes with the
same providers inside, and as a whole have ended or not. -/
inductive Handle.Paired (n : Nat) (w w' : World) (h h' : Handle) : Prop where
  | old (regrouped : h.Regrouped h') (low : ∀ id ∈ h.scopeIds, id < n)
  | new (fresh : h.Fresh n) (fresh' : h'.Fresh n) (leaves : h.leaves true = h'.leaves true)
    (ended : (∀ id ∈ h.layers, id ∉ w.ended) ∧ (∀ id ∈ h'.layers, id ∉ w'.ended) ∨
      (∀ id ∈ h.layers, id ∈ w.ended) ∧ ∀ id ∈ h'.layers, id ∈ w'.ended)

section

variable {n : Nat} {w w' v v' : World} {h h' : Handle}

/-- A new scope that has ended as a whole. -/
theorem Handle.Fresh.dispose_of_ended (hh : h.Fresh n) (hended : ∀ id ∈ h.layers, id ∈ w.ended) : h.dispose w = w := by
  obtain ⟨id, owner, inner, rfl, -⟩ := hh.exists_eq
  rw [Handle.dispose_scope, if_pos (hended id List.mem_cons_self)]

theorem Handle.Fresh.ended_dispose (hh : h.Fresh n) (hnodup : h.layers.Nodup)
    (hended : (∀ id ∈ h.layers, id ∉ w.ended) ∨ ∀ id ∈ h.layers, id ∈ w.ended) :
    ∀ id ∈ h.layers, id ∈ (h.dispose w).ended := by
  rcases hended with hlive | hended
  · rw [hh.dispose_eq hlive hnodup]
    exact fun id hid => List.mem_append_right _ hid
  · rwa [hh.dispose_of_ended hended]

namespace Handle.Paired

theorem bases_eq (hp : h.Paired n w w' h') : h.bases = h'.bases := by
  cases hp with
  | old regrouped => exact regrouped.bases_eq
  | new _ _ leaves => rw [← h.leaves_bases true, ← h'.leaves_bases true, leaves]

theorem bases_low (hp : h.Paired n w w' h') : ∀ b ∈ h.bases, ∀ id ∈ b.scopeIds, id < n := by
  cases hp with
  | old _ low => exact fun b hb id hid => low id (h.bases_subset b hb hid)
  | new fresh => exact fresh.bases_low

/-- The old scopes that the handles lead to are the same. -/
theorem scopes_low (hp : h.Paired n w w' h') :
    (h.scopes.filter fun x => decide (x.1 < n)) = h'.scopes.filter fun x => decide (x.1 < n) := by
  have hbases := hp.bases_eq
  cases hp with
  | old regrouped => rw [regrouped.scopes_eq]
  | new fresh fresh' => rw [fresh.scopes_low, fresh'.scopes_low, hbases]

/-- Which other scopes have ended does not matter. -/
theorem congr (hp : h.Paired n w w' h') (hv : ∀ id ∈ h.layers, n ≤ id → (id ∈ v.ended ↔ id ∈ w.ended))
    (hv' : ∀ id ∈ h'.layers, n ≤ id → (id ∈ v'.ended ↔ id ∈ w'.ended)) : h.Paired n v v' h' := by
  cases hp with
  | old regrouped low => exact .old regrouped low
  | new fresh fresh' leaves ended =>
    have hiff (id : Nat) (hid : id ∈ h.layers) : id ∈ v.ended ↔ id ∈ w.ended := hv id hid (fresh.layers_high hid)
    have hiff' (id : Nat) (hid : id ∈ h'.layers) : id ∈ v'.ended ↔ id ∈ w'.ended := hv' id hid (fresh'.layers_high hid)
    refine .new fresh fresh' leaves (ended.imp ?_ ?_)
    · rintro ⟨hlive, hlive'⟩
      exact ⟨fun id hid => (hiff id hid).not.mpr (hlive id hid), fun id hid => (hiff' id hid).not.mpr (hlive' id hid)⟩
    · rintro ⟨hended, hended'⟩
      exact ⟨fun id hid => (hiff id hid).mpr (hended id hid), fun id hid => (hiff' id hid).mpr (hended' id hid)⟩

/-- The end of scopes elsewhere does not matter. -/
theorem endsOnly {ids ids' : List Nat} (hp : h.Paired n w w' h') (hv : w.EndsOnly ids v) (hv' : w'.EndsOnly ids' v')
    (hapart : ∀ id ∈ h.scopeIds, n ≤ id → id ∉ ids) (hapart' : ∀ id ∈ h'.scopeIds, n ≤ id → id ∉ ids') :
    h.Paired n v v' h' := by
  refine hp.congr (fun id hid hle => ⟨fun hmem => ?_, (hv.kept ·)⟩) fun id hid hle => ⟨fun hmem => ?_, (hv'.kept ·)⟩
  · exact (hv.only id hmem).resolve_right (hapart id (h.layers_subset hid) hle)
  · exact (hv'.only id hmem).resolve_right (hapart' id (h'.layers_subset hid) hle)

/-- The new scopes that the handle leads to have different numbers. -/
theorem nodup_layers (hh : h.Fresh n) (hnodup : (h.scopeIds.filter fun id => decide (n ≤ id)).Nodup) :
    h.layers.Nodup := by rwa [hh.scopeIds_high] at hnodup

/-- Handles that belong together are disposed of alike. -/
theorem dispose (hp : h.Paired n w w' h') (hw : w.Alike n w')
    (hnodup : (h.scopeIds.filter fun id => decide (n ≤ id)).Nodup)
    (hnodup' : (h'.scopeIds.filter fun id => decide (n ≤ id)).Nodup) :
    (h.dispose w).Alike n (h'.dispose w') ∧ h.Paired n (h.dispose w) (h'.dispose w') h' := by
  cases hp with
  | old regrouped low =>
    rw [← regrouped.dispose_eq w']
    exact ⟨h.dispose_alike hw fun id hid => low id (h.layers_subset hid), .old regrouped low⟩
  | new fresh fresh' leaves ended =>
    have hlayers := nodup_layers fresh hnodup
    have hlayers' := nodup_layers fresh' hnodup'
    refine ⟨?_, .new fresh fresh' leaves (.inr ⟨fresh.ended_dispose hlayers (ended.imp And.left And.left),
      fresh'.ended_dispose hlayers' (ended.imp And.right And.right)⟩)⟩
    rcases ended with ⟨hlive, hlive'⟩ | ⟨hended, hended'⟩
    · obtain ⟨next, ended, rfl, hlow⟩ := hw.exists_eq
      rw [fresh.dispose_eq hlive hlayers, fresh'.dispose_eq hlive' hlayers', ← leaves,
        disposeLeaves_withScopes fun l hl => isBase_of_mem_leaves hl]
      refine ⟨rfl, fun id hid => ?_⟩
      -- Old scopes are not among those that end.
      have hnot : id ∉ h.layers := fun hmem => Nat.not_lt.mpr (fresh.layers_high hmem) hid
      have hnot' : id ∉ h'.layers := fun hmem => Nat.not_lt.mpr (fresh'.layers_high hmem) hid
      change id ∈ w.ended ++ h.layers ↔ id ∈ ended ++ h'.layers
      rw [List.mem_append, List.mem_append, or_iff_left hnot, or_iff_left hnot', hlow id hid]
    · rwa [fresh.dispose_of_ended hended, fresh'.dispose_of_ended hended']

end Handle.Paired

/-! ### Letting go -/

/-- The handles belong together name by name. -/
def Pairs (n : Nat) (w w' : World) : List (String × Handle) → List (String × Handle) → Prop :=
  List.Forall₂ fun x x' => x.1 = x'.1 ∧ x.2.Paired n w w' x'.2

/-- The handles lead to none of the new scopes with the numbers. -/
def Apart (n : Nat) (ids : List Nat) (L : List (String × Handle)) : Prop :=
  ∀ x ∈ L, ∀ id ∈ x.2.scopeIds, n ≤ id → id ∉ ids

variable {L L' : List (String × Handle)} {ids ids' : List Nat}

theorem Pairs.congr (hL : Pairs n w w' L L') (hv : w.EndsOnly ids v) (hv' : w'.EndsOnly ids' v')
    (hapart : Apart n ids L) (hapart' : Apart n ids' L') : Pairs n v v' L L' := by
  induction hL with
  | nil => exact .nil
  | @cons x x' _ _ hx _ ih =>
    obtain ⟨hfirst, hrest⟩ := List.forall_mem_cons.mp hapart
    obtain ⟨hfirst', hrest'⟩ := List.forall_mem_cons.mp hapart'
    exact .cons ⟨hx.1, hx.2.endsOnly hv hv' hfirst hfirst'⟩ (ih hrest hrest')

/-- The old scopes that the handles lead to are the same. -/
theorem Pairs.scopesOf_low (hL : Pairs n w w' L L') : ((scopesOf (L.map (·.2))).filter fun x => decide (x.1 < n)) =
    (scopesOf (L'.map (·.2))).filter fun x => decide (x.1 < n) := by
  induction hL with
  | nil => rfl
  | cons hx _ ih => rw [List.map_cons, List.map_cons, scopesOf, scopesOf, List.filter_append, List.filter_append,
      hx.2.scopes_low, ih]

theorem mem_ids_iff {xs ys : List (Nat × Handle)}
    (h : (xs.filter fun x => decide (x.1 < n)) = ys.filter fun x => decide (x.1 < n)) {id : Nat} (hid : id < n) :
    id ∈ xs.map (·.1) ↔ id ∈ ys.map (·.1) := by
  have hmem (zs : List (Nat × Handle)) : id ∈ zs.map (·.1) ↔ id ∈ (zs.filter fun x => decide (x.1 < n)).map (·.1) := by
    simp only [List.mem_map, List.mem_filter, decide_eq_true_eq]
    exact ⟨fun ⟨x, hx, heq⟩ => ⟨x, ⟨hx, heq ▸ hid⟩, heq⟩, fun ⟨x, hx, heq⟩ => ⟨x, hx.1, heq⟩⟩
  rw [hmem xs, hmem ys, h]

theorem Pairs.mem_kept_iff (hL : Pairs n w w' L L') {id : Nat} (hid : id < n) :
    id ∈ (scopesOf (L.map (·.2))).map (·.1) ↔ id ∈ (scopesOf (L'.map (·.2))).map (·.1) :=
  mem_ids_iff hL.scopesOf_low hid

/-- The old scopes that nothing else leads to are the same. -/
theorem Pairs.gone_eq (hL : Pairs n w w' L L') {gone : List (Nat × Handle)} (hgone : ∀ x ∈ gone, x.1 < n) :
    (gone.filter fun x => !((scopesOf (L.map (·.2))).map (·.1)).contains x.1) =
      gone.filter fun x => !((scopesOf (L'.map (·.2))).map (·.1)).contains x.1 := by
  refine List.filter_congr fun x hx => ?_
  have hiff := hL.mem_kept_iff (hgone x hx)
  rw [← List.contains_iff_mem, ← List.contains_iff_mem] at hiff
  rw [Bool.eq_iff_iff.mpr hiff]

/-- Nothing else leads to what a new scope consists of. -/
theorem Apart.not_mem_kept (hapart : Apart n h.scopeIds L) (hh : h.Fresh n) :
    ∀ id ∈ h.layers, id ∉ (scopesOf (L.map (·.2))).map (·.1) := by
  intro id hid hmem
  obtain ⟨x, hx, rfl⟩ := List.mem_map.mp hmem
  obtain ⟨g, hg, hx⟩ := mem_scopesOf.mp hx
  obtain ⟨y, hy, rfl⟩ := List.mem_map.mp hg
  exact hapart y hy x.1 (List.mem_map_of_mem hx) (hh.layers_high hid) (h.layers_subset hid)

/-- The scopes that one lets go of are old. -/
theorem layers_low {gone : List (Nat × Handle)} {h : Handle} (hgone : gone ⊆ h.scopes)
    (hlow : ∀ id ∈ h.scopeIds, id < n) : ∀ x ∈ gone, ∀ id ∈ x.2.layers, id < n :=
  fun x hx id hid => hlow id (Handle.scopeIds_subset (hgone hx) (x.2.layers_subset hid))

/-- Letting go of handles that belong together. -/
theorem Handle.Paired.release (hp : h.Paired n w w' h') (hw : w.Alike n w') (hL : Pairs n w w' L L')
    (hnodup : (h.scopeIds.filter fun id => decide (n ≤ id)).Nodup)
    (hnodup' : (h'.scopeIds.filter fun id => decide (n ≤ id)).Nodup) (hapart : Apart n h.scopeIds L)
    (hapart' : Apart n h'.scopeIds L') :
    (w.release h (L.map (·.2))).Alike n (w'.release h' (L'.map (·.2))) ∧
      Pairs n (w.release h (L.map (·.2))) (w'.release h' (L'.map (·.2))) L L' := by
  refine ⟨?_, hL.congr (release_endsOnly h w _) (release_endsOnly h' w' _) hapart hapart'⟩
  have hdispose := (hp.dispose hw hnodup hnodup').1
  have hbases := hp.bases_eq
  have hold := hp.bases_low
  cases hp with
  | old regrouped low =>
    -- Both lead to the same scopes, and all of these are old.
    have hsub : lastOccurrences h.scopes ⊆ h.scopes := lastOccurrences_subset _
    change (disposeAll ((lastOccurrences h.scopes).filter _) w).Alike n
      (disposeAll ((lastOccurrences h'.scopes).filter _) w')
    rw [← regrouped.scopes_eq, ← hL.gone_eq fun x hx => low x.1 (List.mem_map_of_mem (hsub hx))]
    exact disposeAll_alike hw (layers_low (fun x hx => hsub (List.mem_filter.mp hx).1) low)
  | new fresh fresh' leaves ended =>
    have hlayers := nodup_layers fresh hnodup
    have hlayers' := nodup_layers fresh' hnodup'
    -- Each tree of scopes ends as a whole. What is left to do then are the old scopes behind the providers inside.
    have hsub : lastOccurrences (h.bases.flatMap Handle.scopes) ⊆ h.bases.flatMap Handle.scopes :=
      lastOccurrences_subset _
    rw [fresh.release_eq hlayers (fresh.ended_dispose hlayers (ended.imp And.left And.left))
        (hapart.not_mem_kept fresh),
      fresh'.release_eq hlayers' (fresh'.ended_dispose hlayers' (ended.imp And.right And.right))
        (hapart'.not_mem_kept fresh'), ← hbases, ← hL.gone_eq fun x hx => ?_]
    · refine disposeAll_alike hdispose fun x hx id hid => ?_
      obtain ⟨b, hb, hx⟩ := List.mem_flatMap.mp (hsub (List.mem_filter.mp hx).1)
      exact hold b hb id (Handle.scopeIds_subset hx (x.2.layers_subset hid))
    · obtain ⟨b, hb, hx⟩ := List.mem_flatMap.mp (hsub hx)
      exact hold b hb x.1 (List.mem_map_of_mem hx)

end

/-! ### Stages side by side -/

namespace Stage

/-- The stage is numbered, and no new scope is under two names. -/
structure Tidy (n : Nat) (s : Stage) : Prop where
  numbered : s.Numbered
  le : n ≤ s.world.nextScope
  nodup : (s.scopeIds.filter fun id => decide (n ≤ id)).Nodup

/-- The stages belong together. -/
structure Matches (n : Nat) (s s' : Stage) : Prop where
  world : s.world.Alike n s'.world
  handles : Pairs n s.world s'.world s.handles s'.handles
  left : s.Tidy n
  right : s'.Tidy n

section

variable {n : Nat} {s s' : Stage} {v v' : World} {name : String} {h h' T T' : Handle} {ids : List Nat}

/-- Handles that lead to new scopes of different numbers. -/
theorem apart_of_nodup {w : World} {L : List (String × Handle)}
    (hnodup : ((ids ++ (Stage.mk w L).scopeIds).filter fun id => decide (n ≤ id)).Nodup) :
    (ids.filter fun id => decide (n ≤ id)).Nodup ∧ ((Stage.mk w L).scopeIds.filter fun id => decide (n ≤ id)).Nodup ∧
      Apart n ids L := by
  rw [List.filter_append] at hnodup
  obtain ⟨hown, hothers, hdisjoint⟩ := List.nodup_append'.mp hnodup
  refine ⟨hown, hothers, fun x hx id hid hle hmem => ?_⟩
  have hid' : id ∈ (Stage.mk w L).scopeIds := mem_scopeIds (s := Stage.mk w L) hx hid
  exact hdisjoint (List.mem_filter.mpr ⟨hmem, decide_eq_true hle⟩) (List.mem_filter.mpr ⟨hid', decide_eq_true hle⟩)

theorem scopeIds_cons (w : World) (x : String × Handle) (L : List (String × Handle)) :
    (Stage.mk w (x :: L)).scopeIds = x.2.scopeIds ++ (Stage.mk w L).scopeIds := by
  simp [scopeIds, scopesOf, Handle.scopeIds]

namespace Tidy

theorem of_world (hs : s.Tidy n) (hle : s.world.nextScope ≤ v.nextScope) (hended : v.ended = s.world.ended) :
    (Stage.mk v s.handles).Tidy n :=
  ⟨hs.numbered.of_world hle hended, hs.le.trans hle, hs.nodup⟩

/-- The handle of a name and the others lead to different new scopes. -/
theorem split (hs : s.Tidy n) (hh : s.handle? name = some h) :
    (h.scopeIds.filter fun id => decide (n ≤ id)).Nodup ∧ Apart n h.scopeIds (s.without name) := by
  have hperm := (scopeIds_perm hs.numbered.names hh).filter fun id => decide (n ≤ id)
  obtain ⟨hown, -, hapart⟩ := apart_of_nodup (hperm.nodup_iff.mp hs.nodup)
  exact ⟨hown, hapart⟩

theorem take (hs : s.Tidy n) (name : String) : (s.take name).Tidy n where
  numbered := hs.numbered.take name
  le := hs.le
  nodup := by
    refine hs.nodup.sublist (List.Sublist.filter _ ?_)
    rw [scopeIds, scopeIds, scopesOf_eq, scopesOf_eq]
    exact (((without_sublist s name).map _).flatMap _).map _

theorem drop (hs : s.Tidy n) (hh : s.handle? name = some h) : (s.drop name h).Tidy n where
  numbered := hs.numbered.drop hh
  le := by
    have hends := release_endsOnly h s.world ((s.without name).map (·.2))
    change n ≤ (s.world.release h ((s.without name).map (·.2))).nextScope
    rw [hends.nextScope]
    exact hs.le
  nodup := (hs.take name).nodup

theorem dispose (hs : s.Tidy n) (hh : s.handle? name = some h) : (Stage.mk (h.dispose s.world) s.handles).Tidy n where
  numbered := hs.numbered.dispose hh
  le := by
    change n ≤ (h.dispose s.world).nextScope
    rw [(h.dispose_endsOnly s.world).nextScope]
    exact hs.le
  nodup := hs.nodup

/-- A new scope gets a name. -/
theorem put (hs : s.Tidy n) (hids : ∀ id ∈ T.scopeIds, id < s.world.nextScope)
    (hnodup : (T.scopeIds.filter fun id => decide (n ≤ id)).Nodup) (hnew : ∀ id ∈ T.scopeIds, n ≤ id → id ∉ s.scopeIds)
    (name : String) : (s.put name T).Tidy n where
  numbered := hs.numbered.put hids name
  le := by
    rw [(s.put_endsOnly name T).nextScope]
    exact hs.le
  nodup := by
    rw [scopeIds, put_handles]
    change ((Stage.mk s.world (s.without name ++ [(name, T)])).scopeIds.filter _).Nodup
    rw [scopeIds_append, List.filter_append]
    refine (hs.take name).nodup.append hnodup fun id hid hid' => ?_
    obtain ⟨hid', hle⟩ := List.mem_filter.mp hid'
    exact hnew id hid' (of_decide_eq_true hle) (scopeIds_without_subset s name (List.mem_filter.mp hid).1)

/-- A new scope on a handle gets a name: it has not ended, and is apart from all other handles. -/
theorem opened (hs : s.Tidy n) (hopens : Opens n [h] s.world [T] v) (name : String) :
    ((Stage.mk v s.handles).put name T).Tidy n ∧ (∀ id ∈ T.scopeIds, n ≤ id → id ∉ s.scopeIds) ∧
      ∀ id ∈ T.layers, id ∉ s.world.ended := by
  have hfresh := hopens.fresh T (List.mem_singleton_self T)
  have hbounds := hopens.bounds
  have hnodup := hopens.nodup
  rw [layersOf_singleton] at hbounds hnodup
  have hended : v.ended = s.world.ended := by
    rw [hopens.world]
    rfl
  have hnew : ∀ id ∈ T.scopeIds, n ≤ id → id ∉ s.scopeIds := by
    intro id hid hle hmem
    have hlayer : id ∈ T.layers := by
      rw [← hfresh.scopeIds_high]
      exact List.mem_filter.mpr ⟨hid, decide_eq_true hle⟩
    exact Nat.not_lt.mpr (hbounds id hlayer).1 (hs.numbered.scope_lt id hmem)
  have hlt := hfresh.scopeId_lt (hs.le.trans hopens.le) fun id hid => (hbounds id hid).2
  refine ⟨(hs.of_world hopens.le hended).put hlt ?_ hnew name, hnew, fun id hid hmem => ?_⟩
  · rwa [hfresh.scopeIds_high]
  · exact Nat.not_lt.mpr (hbounds id hid).1 (hs.numbered.ended_lt id hmem)

end Tidy

namespace Matches

/-- A name has no handle in both stages, or handles that belong together. -/
theorem handle? (hm : s.Matches n s') (name : String) : (s.handle? name = none ∧ s'.handle? name = none) ∨
    ∃ h h', s.handle? name = some h ∧ s'.handle? name = some h' ∧ h.Paired n s.world s'.world h' := by
  have hfind {L L' : List (String × Handle)} (hL : Pairs n s.world s'.world L L') :
      (L.find? (·.1 == name) = none ∧ L'.find? (·.1 == name) = none) ∨
        ∃ x x', L.find? (·.1 == name) = some x ∧ L'.find? (·.1 == name) = some x' ∧
          x.2.Paired n s.world s'.world x'.2 := by
    induction hL with
    | nil => exact .inl ⟨rfl, rfl⟩
    | @cons x x' rest rest' hx _ ih =>
      rw [List.find?_cons, List.find?_cons, ← hx.1]
      cases x.1 == name with
      | true => exact .inr ⟨x, x', rfl, rfl, hx.2⟩
      | false => exact ih
  rw [Stage.handle?, Stage.handle?]
  rcases hfind hm.handles with ⟨hnone, hnone'⟩ | ⟨x, x', hx, hx', hp⟩
  · rw [hnone, hnone']
    exact .inl ⟨rfl, rfl⟩
  · rw [hx, hx']
    exact .inr ⟨x.2, x'.2, rfl, rfl, hp⟩

theorem without (hm : s.Matches n s') (name : String) :
    Pairs n s.world s'.world (s.without name) (s'.without name) := by
  refine List.rel_filter (fun x x' hx => ?_) hm.handles
  change (x.1 != name) = true ↔ (x'.1 != name) = true
  rw [hx.1]

/-- Numbers are given out, or a request is made. -/
theorem of_world (hm : s.Matches n s') (hw : v.Alike n v') (hle : s.world.nextScope ≤ v.nextScope)
    (hended : v.ended = s.world.ended) (hle' : s'.world.nextScope ≤ v'.nextScope)
    (hended' : v'.ended = s'.world.ended) : (Stage.mk v s.handles).Matches n (Stage.mk v' s'.handles) where
  world := hw
  handles := hm.handles.imp fun x x' hx =>
    ⟨hx.1, hx.2.congr (fun id _ _ => by rw [hended]) fun id _ _ => by rw [hended']⟩
  left := hm.left.of_world hle hended
  right := hm.right.of_world hle' hended'

/-- Handles that belong together get a name. -/
theorem put (hm : s.Matches n s') (hT : T.Paired n s.world s'.world T') (hleft : (s.put name T).Tidy n)
    (hright : (s'.put name T').Tidy n) (hnew : ∀ id ∈ T.scopeIds, n ≤ id → id ∉ s.scopeIds)
    (hnew' : ∀ id ∈ T'.scopeIds, n ≤ id → id ∉ s'.scopeIds) : (s.put name T).Matches n (s'.put name T') := by
  have hL : Pairs n s.world s'.world (s.without name ++ [(name, T)]) (s'.without name ++ [(name, T')]) :=
    List.rel_append (hm.without name) (.cons ⟨rfl, hT⟩ .nil)
  suffices h : (s.put name T).world.Alike n (s'.put name T').world ∧
      Pairs n (s.put name T).world (s'.put name T').world (s.without name ++ [(name, T)])
        (s'.without name ++ [(name, T')]) from
    ⟨h.1, by rw [put_handles, put_handles]; exact h.2, hleft, hright⟩
  rcases hm.handle? name with ⟨hnone, hnone'⟩ | ⟨old, old', hold, hold', hp⟩
  · rw [Stage.put, Stage.put, hnone, hnone']
    exact ⟨hm.world, hL⟩
  · -- The handles that had the name are let go of when the new ones are there already.
    obtain ⟨hown, hapart⟩ := hm.left.split hold
    obtain ⟨hown', hapart'⟩ := hm.right.split hold'
    rw [Stage.put, Stage.put, hold, hold']
    refine hp.release hm.world hL hown hown' ?_ ?_
    · refine List.forall_mem_append.mpr ⟨hapart, List.forall_mem_singleton.mpr fun id hid hle hmem => ?_⟩
      exact hnew id hid hle (mem_scopeIds (handle?_eq_some hold) hmem)
    · refine List.forall_mem_append.mpr ⟨hapart', List.forall_mem_singleton.mpr fun id hid hle hmem => ?_⟩
      exact hnew' id hid hle (mem_scopeIds (handle?_eq_some hold') hmem)

/-- Handles that belong together get new scopes, which belong together. -/
theorem createScope (hm : s.Matches n s') (hp : h.Paired n s.world s'.world h') (name : String) :
    ((Stage.mk (h.createScope s.world).2 s.handles).put name (h.createScope s.world).1).Matches n
      ((Stage.mk (h'.createScope s'.world).2 s'.handles).put name (h'.createScope s'.world).1) := by
  have hopens := h.opens hm.left.le hp.bases_low
  have hopens' := h'.opens hm.right.le (hp.bases_eq ▸ hp.bases_low)
  obtain ⟨htidy, hnew, hlive⟩ := hm.left.opened hopens name
  obtain ⟨htidy', hnew', hlive'⟩ := hm.right.opened hopens' name
  have hworld := hopens.world
  have hworld' := hopens'.world
  have hleaves := hopens.leaves
  have hleaves' := hopens'.leaves
  rw [basesOf_singleton] at hworld hworld' hleaves hleaves'
  rw [leavesOf_singleton] at hleaves hleaves'
  -- Both have scopes on the same providers, and the worlds have given out equally many stores of cells.
  rw [← hp.bases_eq] at hworld' hleaves'
  have hended : (h.createScope s.world).2.ended = s.world.ended := by rw [hworld]; rfl
  have hended' : (h'.createScope s'.world).2.ended = s'.world.ended := by rw [hworld']; rfl
  have hstore : s'.world.nextStore = s.world.nextStore := by rw [hm.world.same]; rfl
  have halike : (h.createScope s.world).2.Alike n (h'.createScope s'.world).2 := by
    refine ⟨?_, fun id hid => ?_⟩
    · rw [hended', hworld', hworld, hm.world.same]
      rfl
    · rw [hended, hended']
      exact hm.world.low id hid
  refine (hm.of_world halike hopens.le hended hopens'.le hended').put ?_ htidy htidy' hnew hnew'
  refine .new (hopens.fresh _ (List.mem_singleton_self _)) (hopens'.fresh _ (List.mem_singleton_self _)) ?_
    (.inl ⟨hended ▸ hlive, hended' ▸ hlive'⟩)
  rw [hleaves, hleaves', hstore]

/-- A request does not tell the stages apart. -/
theorem request (hm : s.Matches n s') {m : Attempt (Option Nat)} (hblind : m.Blind) :
    (s.request m).1.Matches n (s'.request m).1 ∧ (s.request m).2 = (s'.request m).2 := by
  have hrun := hblind s.world s'.world.nextScope s'.world.ended
  rw [← hm.world.same] at hrun
  rw [Stage.request, Stage.request, hrun]
  cases hfirst : m.run s.world with
  | none => exact ⟨hm, rfl⟩
  | some x =>
    obtain ⟨r, v⟩ := x
    obtain ⟨hnext, hended⟩ := hblind.frame hfirst
    refine ⟨hm.of_world ⟨rfl, fun id hid => ?_⟩ (Nat.le_of_eq hnext.symm) hended (Nat.le_refl _) rfl, rfl⟩
    rw [hended]
    exact hm.world.low id hid

theorem drop (hm : s.Matches n s') (hp : h.Paired n s.world s'.world h') (hh : s.handle? name = some h)
    (hh' : s'.handle? name = some h') : (s.drop name h).Matches n (s'.drop name h') := by
  obtain ⟨hown, hapart⟩ := hm.left.split hh
  obtain ⟨hown', hapart'⟩ := hm.right.split hh'
  obtain ⟨hw, hL⟩ := hp.release hm.world (hm.without name) hown hown' hapart hapart'
  exact ⟨hw, hL, hm.left.drop hh, hm.right.drop hh'⟩

theorem dispose (hm : s.Matches n s') (hp : h.Paired n s.world s'.world h') (hh : s.handle? name = some h)
    (hh' : s'.handle? name = some h') :
    (Stage.mk (h.dispose s.world) s.handles).Matches n (Stage.mk (h'.dispose s'.world) s'.handles) := by
  obtain ⟨hown, hapart⟩ := hm.left.split hh
  obtain ⟨hown', hapart'⟩ := hm.right.split hh'
  obtain ⟨hw, hpair⟩ := hp.dispose hm.world hown hown'
  refine ⟨hw, List.forall₂_iff_zip.mpr ⟨hm.handles.length_eq, fun {x x'} hmem => ?_⟩, hm.left.dispose hh,
    hm.right.dispose hh'⟩
  obtain ⟨hname, hx⟩ := List.forall₂_zip hm.handles hmem
  obtain ⟨hin, hin'⟩ := List.of_mem_zip hmem
  refine ⟨hname, ?_⟩
  -- The handles of the name end together, and the others lead to none of the new scopes that end.
  by_cases heq : x.1 = name
  · have hsame := handle?_of_mem hm.left.numbered.names hin
    have hsame' := handle?_of_mem hm.right.numbered.names hin'
    rw [heq, hh, Option.some.injEq] at hsame
    rw [← hname, heq, hh', Option.some.injEq] at hsame'
    exact hsame ▸ hsame' ▸ hpair
  · have hother : x ∈ s.without name := List.mem_filter.mpr ⟨hin, bne_iff_ne.mpr heq⟩
    have hother' : x' ∈ s'.without name := List.mem_filter.mpr ⟨hin', bne_iff_ne.mpr (hname ▸ heq)⟩
    exact hx.endsOnly ((h.dispose_endsOnly s.world).mono h.layers_subset)
      ((h'.dispose_endsOnly s'.world).mono h'.layers_subset) (hapart x hother) (hapart' x' hother')

theorem onHandle (hm : s.Matches n s') {f f' : Handle → Stage × Outcome}
    (hf : ∀ h h', s.handle? name = some h → s'.handle? name = some h' → h.Paired n s.world s'.world h' →
      (f h).1.Matches n (f' h').1 ∧ (f h).2 = (f' h').2) :
    (s.onHandle name f).1.Matches n (s'.onHandle name f').1 ∧ (s.onHandle name f).2 = (s'.onHandle name f').2 := by
  rcases hm.handle? name with ⟨hnone, hnone'⟩ | ⟨h, h', hh, hh', hp⟩
  · rw [Stage.onHandle, Stage.onHandle, hnone, hnone']
    exact ⟨hm, rfl⟩
  · rw [Stage.onHandle, Stage.onHandle, hh, hh']
    exact hf h h' hh hh' hp

/-- What is done with a scope, and with nothing else. -/
theorem onScope (hm : s.Matches n s') {f f' : Handle → Nat → Handle → Stage × Outcome}
    (hf : ∀ id owner inner id' owner' inner', s.handle? name = some (.scope id owner inner) →
      s'.handle? name = some (.scope id' owner' inner') →
      (Handle.scope id owner inner).Paired n s.world s'.world (.scope id' owner' inner') →
      (f (.scope id owner inner) id inner).1.Matches n (f' (.scope id' owner' inner') id' inner').1 ∧
        (f (.scope id owner inner) id inner).2 = (f' (.scope id' owner' inner') id' inner').2) :
    (s.onHandle name fun h => match h with
      | .scope id _ inner => f h id inner
      | _ => (s, .bad)).1.Matches n (s'.onHandle name fun h => match h with
      | .scope id _ inner => f' h id inner
      | _ => (s', .bad)).1 ∧
    (s.onHandle name fun h => match h with
      | .scope id _ inner => f h id inner
      | _ => (s, .bad)).2 = (s'.onHandle name fun h => match h with
      | .scope id _ inner => f' h id inner
      | _ => (s', .bad)).2 := by
  refine hm.onHandle fun h h' hh hh' hp => ?_
  cases hp with
  | old regrouped low =>
    cases regrouped with
    | same =>
      cases h with
      | scope id owner inner => exact hf id owner inner id owner inner hh hh' (.old (.same _) low)
      | _ => exact ⟨hm, rfl⟩
    | group => exact ⟨hm, rfl⟩
  | new fresh fresh' leaves ended =>
    obtain ⟨id, owner, inner, rfl, -⟩ := fresh.exists_eq
    obtain ⟨id', owner', inner', rfl, -⟩ := fresh'.exists_eq
    exact hf id owner inner id' owner' inner' hh hh' (.new fresh fresh' leaves ended)

/-- Whether something else leads to a scope. -/
theorem isShared_eq (hm : s.Matches n s') {id id' : Nat} {owner owner' : Bool} {inner inner' : Handle}
    (hh : s.handle? name = some (.scope id owner inner)) (hh' : s'.handle? name = some (.scope id' owner' inner'))
    (hp : (Handle.scope id owner inner).Paired n s.world s'.world (.scope id' owner' inner')) :
    s.isShared name id = s'.isShared name id' := by
  have hiff (u : Stage) (i : Nat) : u.isShared name i = true ↔
      i ∈ (scopesOf ((u.without name).map (·.2))).map (·.1) := by
    simp [isShared, List.any_eq_true]
  rw [Bool.eq_iff_iff, hiff, hiff]
  cases hp with
  | old regrouped low =>
    cases regrouped
    exact (hm.without name).mem_kept_iff (low id List.mem_cons_self)
  | new fresh fresh' =>
    -- A new scope is under one name only.
    exact iff_of_false ((hm.left.split hh).2.not_mem_kept fresh id List.mem_cons_self)
      ((hm.right.split hh').2.not_mem_kept fresh' id' List.mem_cons_self)

end Matches

end

end Stage

/-! ### Whatever is done -/

/-- The step uses the handles that there are: requests, new scopes, disposal and letting go. -/
def Step.Uses : Step → Prop
  | .get _ _ | .require _ _ | .scope _ _ | .innerScope _ _ | .dispose _ | .finish _ | .drop _ => True
  | .root _ _ | .clone _ _ | .scoped _ _ _ | .foreign _ _ | .own _ _ | .nest _ _ | .compose _ _ | .inspect _ => False

namespace Stage

variable {n : Nat} {s s' : Stage} {t : Step} {steps : List Step}

/-- A step does not tell the stages apart. -/
theorem Matches.perform (hm : s.Matches n s') (ht : t.Uses) :
    (s.perform t).1.Matches n (s'.perform t).1 ∧ (s.perform t).2 = (s'.perform t).2 := by
  cases t with
  | get source type =>
    refine hm.onHandle fun h h' _ _ hp => ?_
    rw [← Handle.get_congr hp.bases_eq]
    exact hm.request (h.blind_get type)
  | require source type =>
    refine hm.onHandle fun h h' _ _ hp => ?_
    rw [← Handle.require_congr hp.bases_eq, map_eq_pure_bind]
    exact hm.request ((h.blind_require type).bind fun _ => .pure _)
  | scope source name => exact hm.onHandle fun h h' _ _ hp => ⟨hm.createScope hp name, rfl⟩
  | innerScope source name =>
    refine hm.onScope fun id owner inner id' owner' inner' _ _ hp => ?_
    -- A scope passes the creation of scopes on to what is inside.
    have hscope := hm.createScope hp name
    rw [Handle.createScope, Handle.createScope] at hscope
    exact ⟨hscope, rfl⟩
  | dispose source => exact hm.onHandle fun h h' hh hh' hp => ⟨hm.dispose hp hh hh', rfl⟩
  | finish source =>
    refine hm.onScope fun id owner inner id' owner' inner' hh hh' hp => ?_
    rw [hm.isShared_eq hh hh' hp]
    split
    · exact ⟨hm, rfl⟩
    · exact ⟨hm.drop hp hh hh', rfl⟩
  | drop source => exact hm.onHandle fun h h' hh hh' hp => ⟨hm.drop hp hh hh', rfl⟩
  | _ => exact ht.elim

theorem Matches.run (hm : s.Matches n s') (hsteps : ∀ t ∈ steps, t.Uses) :
    (s.run steps).Matches n (s'.run steps) ∧ s.outcomes steps = s'.outcomes steps := by
  induction steps generalizing s s' with
  | nil => exact ⟨hm, rfl⟩
  | cons t rest ih =>
    obtain ⟨hstep, houtcome⟩ := hm.perform (hsteps t List.mem_cons_self)
    obtain ⟨hrest, houtcomes⟩ := ih hstep fun u hu => hsteps u (List.mem_cons_of_mem t hu)
    exact ⟨hrest, List.cons_eq_cons.mpr ⟨houtcome, houtcomes⟩⟩

/-- Letting go of all handles does not tell the stages apart either. -/
theorem Matches.close (hm : s.Matches n s') : s.close.Alike n s'.close := by
  have hall {w w' : World} {L L' : List (String × Handle)} (hw : w.Alike n w') (hL : Pairs n w w' L L')
      (hnodup : ((Stage.mk w L).scopeIds.filter fun id => decide (n ≤ id)).Nodup)
      (hnodup' : ((Stage.mk w' L').scopeIds.filter fun id => decide (n ≤ id)).Nodup) :
      (w.releaseAll [] (L.map (·.2))).Alike n (w'.releaseAll [] (L'.map (·.2))) := by
    induction L generalizing L' w w' with
    | nil =>
      cases hL
      exact hw
    | cons x rest ih =>
      obtain _ | ⟨hx, hrest⟩ := hL
      rename_i x' rest'
      rw [scopeIds_cons] at hnodup hnodup'
      obtain ⟨hown, hothers, hapart⟩ := apart_of_nodup hnodup
      obtain ⟨hown', hothers', hapart'⟩ := apart_of_nodup hnodup'
      obtain ⟨hw, hrest⟩ := hx.2.release hw hrest hown hown' hapart hapart'
      rw [List.map_cons, List.map_cons, World.releaseAll, World.releaseAll, List.append_nil, List.append_nil]
      exact ih hw hrest hothers hothers'
  exact hall hm.world hm.handles hm.left.nodup hm.right.nodup

/-- Nothing that is done tells the stages apart: the same comes of all steps, and the worlds stay the same but for the
numbers of scopes. -/
structure Equivalent (s s' : Stage) : Prop where
  outcomes : ∀ steps, (∀ t ∈ steps, t.Uses) → s.outcomes steps = s'.outcomes steps
  worlds : ∀ steps, (∀ t ∈ steps, t.Uses) →
    ∃ next ended, (s'.run steps).world = (s.run steps).world.withScopes next ended
  closed : ∀ steps, (∀ t ∈ steps, t.Uses) →
    ∃ next ended, (s'.run steps).close = (s.run steps).close.withScopes next ended

theorem Matches.equivalent (hm : s.Matches n s') : s.Equivalent s' where
  outcomes _ hsteps := (hm.run hsteps).2
  worlds _ hsteps := ⟨_, _, (hm.run hsteps).1.world.same⟩
  closed _ hsteps := ⟨_, _, (hm.run hsteps).1.close.same⟩

/-- The stage with a composition under one more name. -/
def withComposed (s : Stage) (name : String) (parts : List Handle) : Stage :=
  { s with handles := s.handles ++ [(name, .composed parts)] }

/-- A group of parts of a composition makes no difference. -/
structure Regroups (s : Stage) (name : String) (xs ys zs : List Handle) : Prop where
  /-- Nothing that is done tells the two compositions apart, on them or on scopes made of them. -/
  equivalent : (s.withComposed name (xs ++ [.composed ys] ++ zs)).Equivalent (s.withComposed name (xs ++ ys ++ zs))
  /-- A request is answered with the first answer of the parts in a row. -/
  answers : ∀ type w r w', ((Handle.composed (xs ++ [.composed ys] ++ zs)).lookup type).run w = some (r, w') ↔
    FirstAnswer (Assembly.make (ask (servicesOf (xs ++ ys ++ zs)))) type (xs ++ ys ++ zs) w r w'
  /-- A new scope has a scope on each provider inside, once, whatever was done before. -/
  scopesOnce : ∀ steps source h,
    ((s.withComposed name (xs ++ [.composed ys] ++ zs)).run steps).handle? source = some h →
    h.ScopesOnce ((s.withComposed name (xs ++ [.composed ys] ++ zs)).run steps).world

variable {name : String} {xs ys zs : List Handle}

theorem Numbered.tidy (hs : s.Numbered) : s.Tidy s.world.nextScope where
  numbered := hs
  le := Nat.le_refl _
  nodup := by
    have hnone : (s.scopeIds.filter fun id => decide (s.world.nextScope ≤ id)) = [] :=
      List.filter_eq_nil_iff.mpr fun id hid => by simpa using hs.scope_lt id hid
    rw [hnone]
    exact .nil

theorem Numbered.group (hs : (s.withComposed name (xs ++ ys ++ zs)).Numbered) :
    (s.withComposed name (xs ++ [.composed ys] ++ zs)).Numbered := by
  have hnames : (s.withComposed name (xs ++ [.composed ys] ++ zs)).handles.map (·.1) =
      (s.withComposed name (xs ++ ys ++ zs)).handles.map (·.1) := by simp [withComposed]
  have hids : (s.withComposed name (xs ++ [.composed ys] ++ zs)).scopeIds =
      (s.withComposed name (xs ++ ys ++ zs)).scopeIds := by
    have hscopes := (Handle.Regrouped.group xs ys zs).scopes_eq
    rw [withComposed, withComposed, scopeIds_append, scopeIds_append, Handle.scopeIds, Handle.scopeIds, hscopes]
  refine ⟨?_, ?_, hs.ended_lt⟩
  · rw [hnames]
    exact hs.names
  · rw [hids]
    exact hs.scope_lt

/-- The two compositions belong together. -/
theorem Numbered.matches_group (hs : (s.withComposed name (xs ++ ys ++ zs)).Numbered) :
    (s.withComposed name (xs ++ [.composed ys] ++ zs)).Matches s.world.nextScope
      (s.withComposed name (xs ++ ys ++ zs)) where
  world := ⟨rfl, fun _ _ => Iff.rfl⟩
  handles := by
    have hlow {parts : List Handle} (hs : (s.withComposed name parts).Numbered) :
        ∀ x ∈ s.handles ++ [(name, .composed parts)], ∀ id ∈ x.2.scopeIds, id < s.world.nextScope := fun x hx id hid =>
      hs.scope_lt id (mem_scopeIds (s := s.withComposed name parts) hx hid)
    have hold := List.forall_mem_append.mp (hlow hs)
    have hgroup := List.forall_mem_append.mp (hlow hs.group)
    refine List.rel_append (List.forall₂_same.mpr fun x hx => ⟨rfl, .old (.same x.2) (hold.1 x hx)⟩)
      (.cons ⟨rfl, ?_⟩ .nil)
    exact .old (.group xs ys zs) (hgroup.2 _ (List.mem_singleton_self _))
  left := hs.group.tidy
  right := hs.tidy

/-- Composition is associative, and the empty composition is its unit: parts of a composition may be grouped into a
composition of their own, which may be empty. -/
theorem composed_assoc (hs : (s.withComposed name (xs ++ ys ++ zs)).Numbered) : s.Regroups name xs ys zs where
  equivalent := hs.matches_group.equivalent
  answers type w r w' := by
    rw [Handle.lookup_eq (Handle.Regrouped.group xs ys zs).bases_eq, Handle.lookup, ask, Handle.askWith,
      Handle.services]
    exact askParts_iff_firstAnswer
  scopesOnce steps source h hh := by
    have hrun := hs.group.run steps
    exact (h.opens (Nat.le_refl _) fun b hb id hid => hrun.lt_of_handle? hh id (h.bases_subset b hb hid)).scopesOnce

end Stage

namespace Sample

/-- A provider of clocks that refuses. -/
def brokenClock : Handle := .foreign
  { name := "broken"
    reply := fun _ _ type => if type == "Clock" then .refused (.notRegistered "Clock") else .absent }

/-- A stage after a run, with a provider of the container and a scope on it that others have let go. -/
def afterVisits : Stage := ⟨(({} : Stage).run visits).world, [("clock", brokenClock)]⟩

theorem visits_scopes : (({} : Stage).run visits).world.nextScope = 2 ∧ (({} : Stage).run visits).world.ended = [] := by
  decide +kernel

theorem afterVisits_numbered : (afterVisits.withComposed "all"
    ([brokenClock] ++ [.root office 0, .scope 0 true (.scoped office (.root office 0) 1)] ++ [])).Numbered where
  names := by simp [Stage.withComposed, afterVisits]
  scope_lt := by
    simp [Stage.withComposed, afterVisits, Stage.scopeIds, scopesOf, Handle.scopes, brokenClock, visits_scopes.1]
  ended_lt := by simp [Stage.withComposed, afterVisits, visits_scopes.2]

end Sample

theorem Stage.composed_assoc_visits : Sample.afterVisits.Regroups "all" [Sample.brokenClock]
    [.root Sample.office 0, .scope 0 true (.scoped Sample.office (.root Sample.office 0) 1)] [] :=
  Stage.composed_assoc Sample.afterVisits_numbered

end ServiceContainer
