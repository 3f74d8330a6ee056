import Mathlib.Data.List.Nodup
import ServiceContainer.Proofs.Constituents
import ServiceContainer.Proofs.Ending

/-!
# New scopes

A new scope on a handle has one scope for each of the providers inside the handle, and around them one for each group.
All of these have new numbers; the scopes that the providers themselves lead to are older. The scopes of the groups do
nothing of their own: as long as none of the scopes has ended, disposal ends all of them and disposes of the providers
inside one after another.

## Main definitions

* `Handle.leaves`, `Handle.layers` — the providers inside a handle, and the scopes around them
* `Handle.Fresh` — a new scope
* `Opens`, `Handle.ScopesOnce` — what new scopes on some handles are

## Main statements

* `Handle.opens` — what creating a scope does
* `Handle.Fresh.dispose_eq` — what disposing of a new scope does
* `Handle.Fresh.release_eq` — what letting go of a new scope does
-/

namespace ServiceContainer

/-! ### Leaves and layers -/

mutual

/-- The providers inside a handle, each with whether the scope right around it owns what it has inside. -/
def Handle.leaves : Handle → Bool → List (Bool × Handle)
  | .root a store, owner => [(owner, .root a store)]
  | .scoped a parent store, owner => [(owner, .scoped a parent store)]
  | .scope _ owner inner, _ => inner.leaves owner
  | .composed parts, owner => leavesOf parts owner
  | .foreign f, owner => [(owner, .foreign f)]

/-- The providers inside some handles. -/
def leavesOf : List Handle → Bool → List (Bool × Handle)
  | [], _ => []
  | h :: rest, owner => h.leaves owner ++ leavesOf rest owner

end

mutual

/-- The scopes around the providers inside a handle, an outer one before those inside. -/
def Handle.layers : Handle → List Nat
  | .root _ _ | .scoped _ _ _ | .foreign _ => []
  | .scope id _ inner => id :: inner.layers
  | .composed parts => layersOf parts

/-- The scopes around the providers inside some handles. -/
def layersOf : List Handle → List Nat
  | [] => []
  | h :: rest => h.layers ++ layersOf rest

end

@[simp] theorem basesOf_singleton (h : Handle) : basesOf [h] = h.bases := by
  rw [basesOf, basesOf, List.append_nil]

@[simp] theorem leavesOf_singleton (h : Handle) (owner : Bool) : leavesOf [h] owner = h.leaves owner := by
  rw [leavesOf, leavesOf, List.append_nil]

@[simp] theorem layersOf_singleton (h : Handle) : layersOf [h] = h.layers := by
  rw [layersOf, layersOf, List.append_nil]

/-- The handle is a provider itself. -/
def Handle.IsBase : Handle → Prop
  | .root _ _ | .scoped _ _ _ | .foreign _ => True
  | .scope _ _ _ | .composed _ => False

mutual

theorem Handle.leaves_bases : ∀ (h : Handle) (owner : Bool), (h.leaves owner).map (·.2) = h.bases
  | .root _ _, _ => rfl
  | .scoped _ _ _, _ => rfl
  | .scope _ owner inner, _ => Handle.leaves_bases inner owner
  | .composed parts, owner => leavesOf_bases parts owner
  | .foreign _, _ => rfl

theorem leavesOf_bases : ∀ (hs : List Handle) (owner : Bool), (leavesOf hs owner).map (·.2) = basesOf hs
  | [], _ => rfl
  | h :: rest, owner => by rw [leavesOf, basesOf, List.map_append, Handle.leaves_bases h, leavesOf_bases rest]

end

mutual

theorem Handle.isBase_of_mem_bases : ∀ (h : Handle), ∀ b ∈ h.bases, b.IsBase
  | .root _ _, _, hb => List.mem_singleton.mp hb ▸ trivial
  | .scoped _ _ _, _, hb => List.mem_singleton.mp hb ▸ trivial
  | .scope _ _ inner, b, hb => Handle.isBase_of_mem_bases inner b hb
  | .composed parts, b, hb => isBase_of_mem_basesOf parts b hb
  | .foreign _, _, hb => List.mem_singleton.mp hb ▸ trivial

theorem isBase_of_mem_basesOf : ∀ (hs : List Handle), ∀ b ∈ basesOf hs, b.IsBase
  | [], _, hb => nomatch hb
  | h :: rest, b, hb => by
    rw [basesOf] at hb
    exact (List.mem_append.mp hb).elim (Handle.isBase_of_mem_bases h b) (isBase_of_mem_basesOf rest b)

end

/-! ### What creating scopes does -/

/-- The provider that a new scope on a provider has inside, and whether the scope owns it. A new store of cells, if it
needs one, has the given number. -/
def Handle.opened : Handle → Nat → Bool × Handle
  | .root a store, cells => (true, .scoped a (.root a store) cells)
  | .scoped a parent store, _ => (false, .scoped a parent store)
  | .foreign f, _ => (true, .foreign f.scoped)
  | h, _ => (true, h)

/-- The number of stores that a new scope on a provider needs. -/
def Handle.newStores : Handle → Nat
  | .root _ _ => 1
  | _ => 0

/-- The call that a new scope on a provider is noted as. -/
def Handle.scopeCall? : Handle → Option Call
  | .foreign f => some (.scope f.name)
  | _ => none

/-- The number of stores that new scopes on some providers need. -/
def storesOf (bs : List Handle) : Nat := (bs.map Handle.newStores).sum

/-- The providers that new scopes on some providers have inside, one for each. -/
def openedOf : List Handle → Nat → List (Bool × Handle)
  | [], _ => []
  | b :: rest, cells => b.opened cells :: openedOf rest (cells + b.newStores)

theorem storesOf_append (bs cs : List Handle) : storesOf (bs ++ cs) = storesOf bs + storesOf cs := by
  rw [storesOf, List.map_append, List.sum_append, storesOf, storesOf]

theorem openedOf_append (bs cs : List Handle) (cells : Nat) :
    openedOf (bs ++ cs) cells = openedOf bs cells ++ openedOf cs (cells + storesOf bs) := by
  induction bs generalizing cells with
  | nil => rfl
  | cons b rest ih =>
    rw [List.cons_append, openedOf, openedOf, ih, List.cons_append, storesOf, storesOf, List.map_cons, List.sum_cons,
      Nat.add_assoc]

/-- A scope that was made when all scopes before had numbers below `n`: it has a new number, and so have the scopes
inside, but not those that the providers inside lead to. -/
inductive Handle.Fresh (n : Nat) : Handle → Prop where
  | keeper {id : Nat} {owner : Bool} {a : Assembly} {parent : Handle} {store : Nat} (new : n ≤ id)
    (old : ∀ i ∈ parent.scopeIds, i < n) : Fresh n (.scope id owner (.scoped a parent store))
  | foreign {id : Nat} {f : Foreign} (new : n ≤ id) : Fresh n (.scope id true (.foreign f))
  | group {id : Nat} {parts : List Handle} (new : n ≤ id) (fresh : ∀ p ∈ parts, Fresh n p) :
    Fresh n (.scope id true (.composed parts))

/-- What new scopes on some handles are: one for each provider inside the handles, with new numbers. Each provider is
scoped once, and nothing else happens. -/
structure Opens (n : Nat) (hs : List Handle) (w : World) (scopes : List Handle) (w' : World) : Prop where
  fresh : ∀ s ∈ scopes, s.Fresh n
  leaves : leavesOf scopes true = openedOf (basesOf hs) w.nextStore
  nodup : (layersOf scopes).Nodup
  bounds : ∀ id ∈ layersOf scopes, w.nextScope ≤ id ∧ id < w'.nextScope
  le : w.nextScope ≤ w'.nextScope
  world : w' = World.withScopes { w with
    nextStore := w.nextStore + storesOf (basesOf hs)
    calls := w.calls ++ (basesOf hs).filterMap Handle.scopeCall? } w'.nextScope w.ended

section

variable {n : Nat} {h : Handle} {hs scopes : List Handle} {w w₁ w₂ : World} {T : Handle}

theorem Opens.nil (n : Nat) (w : World) : Opens n [] w [] w where
  fresh := by simp
  leaves := rfl
  nodup := .nil
  bounds := by simp [layersOf]
  le := Nat.le_refl _
  world := by simp [storesOf, basesOf, World.withScopes]

theorem Opens.cons (hfirst : Opens n [h] w [T] w₁) (hrest : Opens n hs w₁ scopes w₂) :
    Opens n (h :: hs) w (T :: scopes) w₂ := by
  obtain ⟨hfresh, hleaves, hnodup, hbounds, hle, hworld⟩ := hfirst
  rw [leavesOf_singleton, basesOf_singleton] at hleaves
  rw [layersOf_singleton] at hnodup hbounds
  rw [basesOf_singleton] at hworld
  have hle' := hrest.le
  refine ⟨List.forall_mem_cons.mpr ⟨hfresh T List.mem_cons_self, hrest.fresh⟩, ?_, ?_, fun id hid => ?_,
    hle.trans hle', ?_⟩
  · have hstore : w₁.nextStore = w.nextStore + storesOf h.bases := congrArg World.nextStore hworld
    rw [leavesOf, basesOf, openedOf_append, hleaves, hrest.leaves, hstore]
  · rw [layersOf]
    -- Numbers are given out in turn: those of the first scope are below those of the others.
    refine hnodup.append hrest.nodup fun id hid hid' => ?_
    have hlt := (hbounds id hid).2
    have hge := (hrest.bounds id hid').1
    omega
  · rw [layersOf] at hid
    rcases List.mem_append.mp hid with hid | hid
    · have hid := hbounds id hid
      omega
    · have hid := hrest.bounds id hid
      omega
  · rw [hrest.world, hworld, basesOf, storesOf_append, List.filterMap_append]
    simp [World.withScopes, Nat.add_assoc]

/-- A group of new scopes. -/
theorem Opens.group (h : Opens n hs w scopes w₁) (hle : n ≤ w.nextScope) :
    Opens n [.composed hs] w [.scope w₁.nextScope true (.composed scopes)] w₁.newScope.2 where
  fresh := by
    rw [List.forall_mem_singleton]
    exact .group (hle.trans h.le) h.fresh
  leaves := by
    rw [leavesOf_singleton, basesOf_singleton]
    exact h.leaves
  nodup := by
    rw [layersOf_singleton]
    exact List.nodup_cons.mpr ⟨fun hid => Nat.lt_irrefl _ (h.bounds _ hid).2, h.nodup⟩
  bounds id hid := by
    rw [layersOf_singleton] at hid
    change w.nextScope ≤ id ∧ id < w₁.nextScope + 1
    have hle := h.le
    rcases List.mem_cons.mp hid with rfl | hid
    · omega
    · have hbounds := h.bounds id hid
      omega
  le := h.le.trans (Nat.le_succ _)
  world := by
    rw [basesOf_singleton]
    exact congrArg (fun v : World => v.newScope.2) h.world

/-- A new scope on a single provider. -/
theorem Opens.single {b inner : Handle} {owner : Bool}
    (hfresh : (Handle.scope w.nextScope owner inner).Fresh n) (hbases : b.bases = [b])
    (hleaves : inner.leaves owner = [b.opened w.nextStore])
    (hlayers : inner.layers = [])
    (hworld : w₁ = World.withScopes { w with
      nextStore := w.nextStore + b.newStores, calls := w.calls ++ b.scopeCall?.toList } (w.nextScope + 1) w.ended) :
    Opens n [b] w [.scope w.nextScope owner inner] w₁ := by
  subst hworld
  refine ⟨by simpa using hfresh, ?_, ?_, ?_, Nat.le_succ _, ?_⟩
  · rw [leavesOf_singleton, basesOf_singleton, hbases]
    exact hleaves
  · rw [layersOf_singleton, Handle.layers, hlayers]
    exact List.nodup_singleton _
  · rw [layersOf_singleton, Handle.layers, hlayers, List.forall_mem_singleton]
    exact ⟨Nat.le_refl _, Nat.lt_succ_self _⟩
  · rw [basesOf_singleton, hbases]
    cases hcall : b.scopeCall? <;> simp [storesOf, World.withScopes, hcall]

mutual

/-- What a new scope on a handle is. -/
theorem Handle.opens : ∀ (h : Handle) {w : World}, n ≤ w.nextScope → (∀ b ∈ h.bases, ∀ id ∈ b.scopeIds, id < n) →
    Opens n [h] w [(h.createScope w).1] (h.createScope w).2
  | .root _ _, w, hle, _ => .single (.keeper hle nofun) rfl rfl rfl (by simp [Handle.scopeCall?]; rfl)
  | .scoped a parent store, w, hle, hold => by
    have hparent : ∀ i ∈ parent.scopeIds, i < n := hold (.scoped a parent store) (List.mem_singleton_self _)
    exact .single (.keeper hle hparent) rfl rfl rfl (by simp [Handle.scopeCall?]; rfl)
  | .scope _ _ inner, w, hle, hold => by
    obtain ⟨hfresh, hleaves, hnodup, hbounds, hle', hworld⟩ := Handle.opens inner hle hold
    exact ⟨hfresh, hleaves, hnodup, hbounds, hle', hworld⟩
  | .composed parts, w, hle, hold => (createScopes_opens parts hle hold).group hle
  | .foreign _, w, hle, _ => .single (.foreign hle) rfl rfl rfl rfl

theorem createScopes_opens : ∀ (hs : List Handle) {w : World}, n ≤ w.nextScope →
    (∀ b ∈ basesOf hs, ∀ id ∈ b.scopeIds, id < n) → Opens n hs w (createScopes hs w).1 (createScopes hs w).2
  | [], w, _, _ => .nil n w
  | h :: rest, w, hle, hold => by
    have hfirst := Handle.opens h hle fun b hb => hold b (List.mem_append_left _ hb)
    exact hfirst.cons (createScopes_opens rest (hle.trans hfirst.le) fun b hb => hold b (List.mem_append_right _ hb))

end

end

/-- A new scope on a handle has a scope on each provider inside, once. -/
structure Handle.ScopesOnce (h : Handle) (w : World) : Prop where
  leaves : (h.createScope w).1.leaves true = openedOf h.bases w.nextStore
  calls : (h.createScope w).2.calls = w.calls ++ h.bases.filterMap Handle.scopeCall?

theorem Opens.scopesOnce {n : Nat} {h : Handle} {w : World}
    (hopens : Opens n [h] w [(h.createScope w).1] (h.createScope w).2) : h.ScopesOnce w where
  leaves := by
    have hleaves := hopens.leaves
    rwa [leavesOf_singleton, basesOf_singleton] at hleaves
  calls := by
    rw [hopens.world, basesOf_singleton]
    rfl

/-! ### Disposal -/

/-- Disposes of those providers that the scopes right around them own. -/
def disposeLeaves (leaves : List (Bool × Handle)) (w : World) : World :=
  leaves.foldl (fun w l => if l.1 then l.2.dispose w else w) w

section

variable {n : Nat} {h : Handle} {hs : List Handle} {w : World}

theorem disposeLeaves_append (ls ms : List (Bool × Handle)) (w : World) :
    disposeLeaves (ls ++ ms) w = disposeLeaves ms (disposeLeaves ls w) := List.foldl_append

/-- Disposing of a provider has nothing to do with scopes. -/
theorem Handle.IsBase.dispose_withScopes (hh : h.IsBase) (w : World) (next : Nat) (ended : List Nat) :
    h.dispose (w.withScopes next ended) = (h.dispose w).withScopes next ended := by
  cases h <;> first | rfl | exact hh.elim

theorem disposeLeaves_withScopes {ls : List (Bool × Handle)} (hls : ∀ l ∈ ls, l.2.IsBase) (w : World) (next : Nat)
    (ended : List Nat) : disposeLeaves ls (w.withScopes next ended) = (disposeLeaves ls w).withScopes next ended := by
  induction ls generalizing w with
  | nil => rfl
  | cons l rest ih =>
    obtain ⟨hl, hrest⟩ := List.forall_mem_cons.mp hls
    obtain ⟨owner, b⟩ := l
    cases owner with
    | false => exact ih hrest w
    | true =>
      change disposeLeaves rest (b.dispose (w.withScopes next ended)) = _
      rw [hl.dispose_withScopes]
      exact ih hrest (b.dispose w)

theorem isBase_of_mem_leaves {l : Bool × Handle} {owner : Bool} (hl : l ∈ h.leaves owner) : l.2.IsBase := by
  refine h.isBase_of_mem_bases _ ?_
  rw [← h.leaves_bases owner]
  exact List.mem_map_of_mem hl

theorem isBase_of_mem_leavesOf {l : Bool × Handle} {owner : Bool} (hl : l ∈ leavesOf hs owner) : l.2.IsBase := by
  refine isBase_of_mem_basesOf hs _ ?_
  rw [← leavesOf_bases hs owner]
  exact List.mem_map_of_mem hl

/-- Disposal of several handles goes through all providers inside, if it does so for each of them. -/
theorem disposeParts_eq_leaves
    (hparts : ∀ p ∈ hs, ∀ w : World, (∀ id ∈ p.layers, id ∉ w.ended) → p.layers.Nodup →
      p.dispose w = (disposeLeaves (p.leaves true) w).withScopes w.nextScope (w.ended ++ p.layers))
    (hlive : ∀ id ∈ layersOf hs, id ∉ w.ended) (hnodup : (layersOf hs).Nodup) : disposeParts hs w =
      (disposeLeaves (leavesOf hs true) w).withScopes w.nextScope (w.ended ++ layersOf hs) := by
  induction hs generalizing w with
  | nil => rw [disposeParts, layersOf, List.append_nil, leavesOf, disposeLeaves, List.foldl_nil, World.withScopes_self]
  | cons p rest ih =>
    rw [layersOf] at hlive hnodup
    obtain ⟨hp, hrest, hdisjoint⟩ := List.nodup_append'.mp hnodup
    rw [disposeParts, hparts p List.mem_cons_self w (fun id hid => hlive id (List.mem_append_left _ hid)) hp,
      ih (fun q hq => hparts q (List.mem_cons_of_mem p hq)) ?_ hrest,
      disposeLeaves_withScopes fun l hl => isBase_of_mem_leavesOf hl, leavesOf, disposeLeaves_append, layersOf,
      ← List.append_assoc]
    · rfl
    · -- The first handle ends scopes of its own only, so those of the others have not ended yet.
      intro id hid hmem
      rcases List.mem_append.mp hmem with hmem | hmem
      · exact hlive id (List.mem_append_right _ hid) hmem
      · exact hdisjoint hmem hid

/-- Disposing of a new scope ends all scopes it consists of, and disposes of the providers inside in order. -/
theorem Handle.Fresh.dispose_eq (hh : h.Fresh n) {w : World} (hlive : ∀ id ∈ h.layers, id ∉ w.ended)
    (hnodup : h.layers.Nodup) : h.dispose w =
      (disposeLeaves (h.leaves true) w).withScopes w.nextScope (w.ended ++ h.layers) := by
  induction hh generalizing w with
  | @keeper id owner a parent store _ _ =>
    rw [Handle.dispose_scope, if_neg (hlive id List.mem_cons_self)]
    cases owner <;> rfl
  | @foreign id f _ =>
    rw [Handle.dispose_scope, if_neg (hlive id List.mem_cons_self)]
    rfl
  | @group id parts _ _ ih =>
    rw [Handle.layers] at hlive hnodup
    obtain ⟨hid, hparts⟩ := List.nodup_cons.mp hnodup
    rw [Handle.dispose_scope, if_neg (hlive id List.mem_cons_self), if_pos rfl, Handle.dispose]
    -- The scope of the group is marked as ended before the scopes inside, none of which has its number.
    have hrest := disposeParts_eq_leaves (w := w.withScopes w.nextScope (w.ended ++ [id])) (fun p hp _ => ih p hp)
      (fun i hi hmem => ?_) hparts
    · refine hrest.trans ?_
      rw [disposeLeaves_withScopes fun l hl => isBase_of_mem_leavesOf hl]
      simp [World.withScopes, Handle.leaves, Handle.layers]
    · rcases List.mem_append.mp hmem with hmem | hmem
      · exact hlive i (List.mem_cons_of_mem id hi) hmem
      · exact hid (List.mem_singleton.mp hmem ▸ hi)

end

/-! ### The scopes that handles lead to -/

mutual

theorem Handle.eq_scope_of_mem : ∀ (h : Handle), ∀ x ∈ h.scopes, ∃ owner inner, x.2 = .scope x.1 owner inner
  | .root _ _, _, hx => nomatch hx
  | .scoped _ parent _, x, hx => Handle.eq_scope_of_mem parent x hx
  | .scope id owner inner, x, hx => by
    rcases List.mem_cons.mp hx with rfl | hx
    · exact ⟨owner, inner, rfl⟩
    · exact Handle.eq_scope_of_mem inner x hx
  | .composed parts, x, hx => eq_scope_of_mem_scopesOf parts x hx
  | .foreign _, _, hx => nomatch hx

theorem eq_scope_of_mem_scopesOf : ∀ (hs : List Handle), ∀ x ∈ scopesOf hs, ∃ owner inner, x.2 = .scope x.1 owner inner
  | [], _, hx => nomatch hx
  | h :: rest, x, hx => by
    rw [scopesOf] at hx
    exact (List.mem_append.mp hx).elim (Handle.eq_scope_of_mem h x) (eq_scope_of_mem_scopesOf rest x)

end

mutual

/-- What a scope leads to that a handle leads to, the handle leads to. -/
theorem Handle.scopes_subset : ∀ (h : Handle), ∀ x ∈ h.scopes, x.2.scopes ⊆ h.scopes
  | .root _ _, _, hx => nomatch hx
  | .scoped _ parent _, x, hx => Handle.scopes_subset parent x hx
  | .scope id owner inner, x, hx => by
    rcases List.mem_cons.mp hx with rfl | hx
    · exact List.Subset.refl _
    · exact List.subset_cons_of_subset _ (Handle.scopes_subset inner x hx)
  | .composed parts, x, hx => scopesOf_subset parts x hx
  | .foreign _, _, hx => nomatch hx

theorem scopesOf_subset : ∀ (hs : List Handle), ∀ x ∈ scopesOf hs, x.2.scopes ⊆ scopesOf hs
  | [], _, hx => nomatch hx
  | h :: rest, x, hx => by
    rw [scopesOf] at hx ⊢
    rcases List.mem_append.mp hx with hx | hx
    · exact List.subset_append_of_subset_left _ (Handle.scopes_subset h x hx)
    · exact List.subset_append_of_subset_right _ (scopesOf_subset rest x hx)

end

theorem Handle.scopeIds_subset {h : Handle} {x : Nat × Handle} (hx : x ∈ h.scopes) : x.2.scopeIds ⊆ h.scopeIds :=
  List.map_subset _ (h.scopes_subset x hx)

mutual

theorem Handle.layers_subset : ∀ h : Handle, h.layers ⊆ h.scopeIds
  | .root _ _ => List.nil_subset _
  | .scoped _ _ _ => List.nil_subset _
  | .scope id owner inner => by
    rw [Handle.scopeIds_scope]
    exact List.cons_subset_cons id (Handle.layers_subset inner)
  | .composed parts => layersOf_subset parts
  | .foreign _ => List.nil_subset _

theorem layersOf_subset : ∀ hs : List Handle, layersOf hs ⊆ (Handle.composed hs).scopeIds
  | [] => List.nil_subset _
  | h :: rest => by
    rw [layersOf, Handle.scopeIds_composed_cons]
    exact List.append_subset.mpr ⟨List.subset_append_of_subset_left _ (Handle.layers_subset h),
      List.subset_append_of_subset_right _ (layersOf_subset rest)⟩

end

section

variable {n : Nat} {h : Handle} {w : World}

theorem filter_scopesOf (p : Nat → Bool) {hs : List Handle} {f : Handle → List (Nat × Handle)}
    (hf : ∀ h ∈ hs, (h.scopes.filter fun x => p x.1) = h.bases.flatMap f) :
    ((scopesOf hs).filter fun x => p x.1) = (basesOf hs).flatMap f := by
  induction hs with
  | nil => rfl
  | cons h rest ih =>
    rw [scopesOf, basesOf, List.filter_append, List.flatMap_append, hf h List.mem_cons_self,
      ih fun g hg => hf g (List.mem_cons_of_mem h hg)]

/-- The old scopes that a new scope leads to are those that the providers inside lead to. -/
theorem Handle.Fresh.scopes_low (hh : h.Fresh n) :
    (h.scopes.filter fun x => decide (x.1 < n)) = h.bases.flatMap Handle.scopes := by
  induction hh with
  | @keeper id owner a parent store new old =>
    rw [Handle.scopes, List.filter_cons_of_neg (by simpa using new)]
    change (parent.scopes.filter fun x => decide (x.1 < n)) = [Handle.scoped a parent store].flatMap Handle.scopes
    rw [List.flatMap_singleton, Handle.scopes, List.filter_eq_self]
    exact fun x hx => decide_eq_true (old x.1 (List.mem_map_of_mem hx))
  | @foreign id f new =>
    rw [Handle.scopes, List.filter_cons_of_neg (by simpa using new)]
    rfl
  | @group id parts new _ ih =>
    rw [Handle.scopes, List.filter_cons_of_neg (by simpa using new), Handle.scopes, Handle.bases, Handle.bases]
    exact filter_scopesOf (fun i => decide (i < n)) ih

theorem filter_scopeIds_composed {p : Nat → Bool} {hs : List Handle} (hhs : ∀ h ∈ hs, h.scopeIds.filter p = h.layers) :
    (Handle.composed hs).scopeIds.filter p = layersOf hs := by
  induction hs with
  | nil => rfl
  | cons h rest ih =>
    rw [Handle.scopeIds_composed_cons, List.filter_append, layersOf, hhs h List.mem_cons_self,
      ih fun g hg => hhs g (List.mem_cons_of_mem h hg)]

/-- The new scopes that a new scope leads to are those that it consists of. -/
theorem Handle.Fresh.scopeIds_high (hh : h.Fresh n) : (h.scopeIds.filter fun id => decide (n ≤ id)) = h.layers := by
  induction hh with
  | @keeper id owner a parent store new old =>
    rw [Handle.scopeIds_scope, List.filter_cons_of_pos (by simpa using new)]
    have hnone : ((Handle.scoped a parent store).scopeIds.filter fun id => decide (n ≤ id)) = [] := by
      rw [List.filter_eq_nil_iff]
      intro i hi
      have hlt : i < n := old i hi
      simpa using hlt
    rw [hnone]
    rfl
  | @foreign id f new =>
    rw [Handle.scopeIds_scope, List.filter_cons_of_pos (by simpa using new)]
    rfl
  | @group id parts new _ ih =>
    rw [Handle.scopeIds_scope, List.filter_cons_of_pos (by simpa using new), Handle.layers, Handle.layers]
    exact congrArg (id :: ·) (filter_scopeIds_composed ih)

theorem Handle.Fresh.layers_high (hh : h.Fresh n) {id : Nat} (hid : id ∈ h.layers) : n ≤ id := by
  rw [← hh.scopeIds_high] at hid
  exact of_decide_eq_true (List.mem_filter.mp hid).2

theorem Handle.Fresh.bases_low (hh : h.Fresh n) : ∀ b ∈ h.bases, ∀ id ∈ b.scopeIds, id < n := by
  intro b hb id hid
  obtain ⟨x, hx, rfl⟩ := List.mem_map.mp hid
  have hmem : x ∈ h.bases.flatMap Handle.scopes := List.mem_flatMap.mpr ⟨b, hb, hx⟩
  rw [← hh.scopes_low] at hmem
  exact of_decide_eq_true (List.mem_filter.mp hmem).2

theorem Handle.Fresh.exists_eq (hh : h.Fresh n) : ∃ id owner inner, h = .scope id owner inner ∧ n ≤ id := by
  cases hh with
  | keeper new | foreign new | group new => exact ⟨_, _, _, rfl, new⟩

/-! ### Which scopes end -/

/-- Scopes with some of the numbers end, and none are made. -/
structure World.EndsOnly (w : World) (ids : List Nat) (w' : World) : Prop where
  nextScope : w'.nextScope = w.nextScope
  kept : w.ended ⊆ w'.ended
  only : ∀ id ∈ w'.ended, id ∈ w.ended ∨ id ∈ ids

namespace World.EndsOnly

variable {w' w'' : World} {ids more : List Nat}

theorem refl (w : World) (ids : List Nat) : w.EndsOnly ids w := ⟨rfl, List.Subset.refl _, fun _ => .inl⟩

theorem mono (h : w.EndsOnly ids w') (hmore : ids ⊆ more) : w.EndsOnly more w' :=
  ⟨h.nextScope, h.kept, fun id hid => (h.only id hid).imp_right (hmore ·)⟩

theorem trans (h : w.EndsOnly ids w') (h' : w'.EndsOnly ids w'') : w.EndsOnly ids w'' where
  nextScope := h'.nextScope.trans h.nextScope
  kept := List.Subset.trans h.kept h'.kept
  only id hid := (h'.only id hid).elim (h.only id) .inr

end World.EndsOnly

mutual

/-- Disposal ends the scopes around the providers inside only. -/
theorem Handle.dispose_endsOnly : ∀ (h : Handle) (w : World), w.EndsOnly h.layers (h.dispose w)
  | .root _ _, _ => ⟨rfl, List.Subset.refl _, fun _ => .inl⟩
  | .scoped _ _ _, _ => ⟨rfl, List.Subset.refl _, fun _ => .inl⟩
  | .scope id owner inner, w => by
    rw [Handle.dispose_scope, Handle.layers]
    have hmark : w.EndsOnly (id :: inner.layers) { w with ended := w.ended ++ [id] } :=
      ⟨rfl, List.subset_append_left _ _, by simp +contextual [or_imp]⟩
    split
    · exact .refl w _
    · split
      · exact hmark.trans ((Handle.dispose_endsOnly inner _).mono (List.subset_cons_self _ _))
      · exact hmark
  | .composed parts, w => disposeParts_endsOnly parts w
  | .foreign _, _ => ⟨rfl, List.Subset.refl _, fun _ => .inl⟩

theorem disposeParts_endsOnly : ∀ (hs : List Handle) (w : World), w.EndsOnly (layersOf hs) (disposeParts hs w)
  | [], w => .refl w _
  | h :: rest, w => by
    rw [disposeParts, layersOf]
    exact ((Handle.dispose_endsOnly h w).mono (List.subset_append_left _ _)).trans
      ((disposeParts_endsOnly rest _).mono (List.subset_append_right _ _))

end

/-- Disposes of scopes in order. -/
def disposeAll (gone : List (Nat × Handle)) (w : World) : World := gone.foldl (fun w s => s.2.dispose w) w

theorem lastOccurrences_filter (p : Nat → Bool) (xs : List (Nat × Handle)) :
    lastOccurrences (xs.filter fun x => p x.1) = (lastOccurrences xs).filter fun x => p x.1 := by
  induction xs with
  | nil => rfl
  | cons x rest ih =>
    by_cases hx : p x.1
    · -- Whether a number comes again later does not depend on the others.
      have hany : ((rest.filter fun y => p y.1).any fun y => y.1 == x.1) = rest.any fun y => y.1 == x.1 := by
        rw [List.any_filter]
        refine List.any_congr rfl fun y => ?_
        by_cases heq : y.1 = x.1
        · simp [heq, hx]
        · simp [heq]
      rw [List.filter_cons_of_pos (by simpa using hx), lastOccurrences, lastOccurrences, hany, ih]
      split
      · rfl
      · rw [List.filter_cons_of_pos (by simpa using hx)]
    · rw [List.filter_cons_of_neg (by simpa using hx), ih, lastOccurrences]
      split
      · rfl
      · rw [List.filter_cons_of_neg (by simpa using hx)]

theorem disposeAll_endsOnly {gone : List (Nat × Handle)} (hgone : gone ⊆ h.scopes) (w : World) :
    w.EndsOnly h.scopeIds (disposeAll gone w) := by
  induction gone generalizing w with
  | nil => exact .refl w _
  | cons x rest ih =>
    obtain ⟨hx, hrest⟩ := List.cons_subset.mp hgone
    have hids : x.2.layers ⊆ h.scopeIds := List.Subset.trans x.2.layers_subset (Handle.scopeIds_subset hx)
    exact ((x.2.dispose_endsOnly w).mono hids).trans (ih hrest _)

theorem release_endsOnly (h : Handle) (w : World) (remaining : List Handle) :
    w.EndsOnly h.scopeIds (w.release h remaining) :=
  disposeAll_endsOnly (fun _ hx => lastOccurrences_subset _ (List.mem_filter.mp hx).1) w

/-! ### Letting go -/

/-- A scope that has ended need not be disposed of. -/
theorem disposeAll_filter {gone : List (Nat × Handle)} (hgone : ∀ x ∈ gone, ∃ owner inner, x.2 = .scope x.1 owner inner)
    (hended : ∀ x ∈ gone, n ≤ x.1 → x.1 ∈ w.ended) :
    disposeAll gone w = disposeAll (gone.filter fun x => decide (x.1 < n)) w := by
  induction gone generalizing w with
  | nil => rfl
  | cons x rest ih =>
    obtain ⟨hx, hrest⟩ := List.forall_mem_cons.mp hgone
    obtain ⟨hxended, hrestended⟩ := List.forall_mem_cons.mp hended
    by_cases hlt : x.1 < n
    · rw [List.filter_cons_of_pos (by simpa using hlt)]
      exact ih hrest fun y hy hle => (x.2.dispose_endsOnly w).kept (hrestended y hy hle)
    · obtain ⟨owner, inner, heq⟩ := hx
      have hnop : x.2.dispose w = w := by rw [heq, Handle.dispose_scope, if_pos (hxended (Nat.le_of_not_lt hlt))]
      rw [List.filter_cons_of_neg (by simpa using hlt)]
      change disposeAll rest (x.2.dispose w) = _
      rw [hnop]
      exact ih hrest hrestended

/-- Letting go of a new scope disposes of it, and then of the old scopes that it leads to, unless something else leads
there. -/
theorem Handle.Fresh.release_eq (hh : h.Fresh n) {remaining : List Handle} (hnodup : h.layers.Nodup)
    (hended : ∀ id ∈ h.layers, id ∈ (h.dispose w).ended)
    (hkept : ∀ id ∈ h.layers, id ∉ (scopesOf remaining).map (·.1)) : w.release h remaining =
      disposeAll ((lastOccurrences (h.bases.flatMap Handle.scopes)).filter fun x =>
        !((scopesOf remaining).map (·.1)).contains x.1) (h.dispose w) := by
  have hlow := hh.scopes_low
  have hhigh := hh.scopeIds_high
  obtain ⟨id, owner, inner, rfl, new⟩ := hh.exists_eq
  rw [Handle.scopes, List.filter_cons_of_neg (by simpa using new)] at hlow
  rw [Handle.scopeIds_scope, List.filter_cons_of_pos (by simpa using new), Handle.layers] at hhigh
  rw [Handle.layers] at hnodup hended hkept
  have hinner {i : Nat} (hi : i ∈ inner.scopeIds) (hle : n ≤ i) : i ∈ inner.layers := by
    rw [← (List.cons.inj hhigh).2]
    exact List.mem_filter.mpr ⟨hi, decide_eq_true hle⟩
  -- Nothing inside leads back to the scope, so it is the first that is disposed of.
  have hlater : (inner.scopes.any fun x => x.1 == id) = false := by
    rw [List.any_eq_false]
    intro x hx heq
    obtain rfl := beq_iff_eq.mp heq
    exact (List.nodup_cons.mp hnodup).1 (hinner (List.mem_map_of_mem hx) new)
  have hnew : (!((scopesOf remaining).map (·.1)).contains id) = true := by
    simpa [List.contains_iff_mem] using hkept id List.mem_cons_self
  change disposeAll ((lastOccurrences ((id, .scope id owner inner) :: inner.scopes)).filter _) w = _
  rw [lastOccurrences, hlater, if_neg Bool.false_ne_true, List.filter_cons, if_pos hnew]
  change disposeAll ((lastOccurrences inner.scopes).filter _) ((Handle.scope id owner inner).dispose w) = _
  -- All scopes that the new one consists of have ended by now; the others are old.
  have hsub {x : Nat × Handle} (hx : x ∈ (lastOccurrences inner.scopes).filter fun x =>
      !((scopesOf remaining).map (·.1)).contains x.1) : x ∈ inner.scopes :=
    lastOccurrences_subset _ (List.mem_filter.mp hx).1
  rw [disposeAll_filter (n := n) (fun x hx => inner.eq_scope_of_mem x (hsub hx))
    fun x hx hle => hended _ (List.mem_cons_of_mem id (hinner (List.mem_map_of_mem (hsub hx)) hle)), ← hlow,
    lastOccurrences_filter (fun i => decide (i < n)), List.filter_filter, List.filter_filter]
  simp only [Bool.and_comm]

end

end ServiceContainer
