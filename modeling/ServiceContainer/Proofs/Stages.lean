import Mathlib.Data.List.Flatten
import ServiceContainer.Proofs.Ending
import ServiceContainer.World.Stage

/-!
# Stages

A stage is valid for a census and for the receipts of requests so far when its world is sound for them, its handles are
regular, no scope is under two names, and what scopes keep is disposed of when they end and not before. Ending scopes
keeps a stage valid, and so do taking handles and giving names to new ones.

## Main definitions

* `Stage.Valid` — the invariant
* `World.MadeBy` — which provider made an instance

## Main statements

* `Stage.Valid.ends` — scopes may end
* `Stage.Valid.put` — new handles may get names
* `Stage.Valid.lost_of_release` — a scope that nothing leads to any more has ended
-/

namespace ServiceContainer

/-- The numbers of the scopes that the handles with names lead to. -/
def Stage.scopeIds (s : Stage) : List Nat := (scopesOf (s.handles.map (·.2))).map (·.1)

/-- The numbers of the scopes that the handle of a name leads to. -/
def Stage.scopeIdsOf (s : Stage) (name : String) : List Nat := (s.handle? name).elim [] Handle.scopeIds

/-! ### The invariant -/

/-- The instance was made by the provider. -/
def World.MadeBy (w : World) (k : Keeper) (x : Nat) : Prop :=
  ∃ type construct arguments answers, w.instances[x]? = some (.built type k.handle construct arguments answers)

/-- The stage agrees with a census and with the receipts of requests. -/
structure Stage.Valid (c : Census) (s : Stage) (held : List Receipt) : Prop where
  sound : s.world.Sound c.home (held ++ s.world.receipts)
  fits : c.Fits s.world
  regular : ∀ x ∈ s.handles, x.2.Regular c
  names : (s.handles.map (·.1)).Nodup
  /-- No scope is under two names. -/
  distinct : s.scopeIds.Nodup
  closed : ∀ x ∈ s.handles, x.2.Closed s.world.ended
  ended_lt : ∀ id ∈ s.world.ended, id < s.world.nextScope
  disposals_lt : ∀ x ∈ s.world.disposals, x < s.world.instances.length
  /-- What a scope keeps is disposed of when the scope ends and not before. -/
  spent : ∀ x ∈ s.world.disposals, ∀ k : Keeper, k.scope.isSome → s.world.MadeBy k x →
    ∃ id ∈ s.world.ended, c.owned id = some k

variable {c c' : Census} {s : Stage} {held : List Receipt} {w' : World}

theorem Stage.valid_empty : Stage.Valid .empty {} [] where
  sound := by
    refine ⟨?_, ?_, ?_, ?_, .nil, ?_, ?_⟩ <;> simp [World.receipts, World.cell?]
  fits := by constructor <;> simp [Census.empty, Census.owned]
  regular := by simp
  names := by simp
  distinct := by simp [Stage.scopeIds, scopesOf]
  closed := by simp
  ended_lt := by simp
  disposals_lt := by simp
  spent := by simp

namespace World

variable {w : World} {k l : Keeper}

/-- A world is sound if its instances and cells are those of a sound one. -/
theorem Sound.congr {home : Nat → Option Keeper} (h : w.Sound home held) (hinstances : w'.instances = w.instances)
    (hcells : w'.cells = w.cells) : w'.Sound home held := by
  have hcell : w'.cell? = w.cell? := by
    funext n x
    rw [cell?, cell?, hcells]
  refine ⟨h.served, ?_, ?_, ?_, h.apart, ?_, ?_⟩
  · rw [hinstances]
    exact h.bound
  · rw [hcell]
    exact h.kept
  · rw [hcell]
    exact h.loose
  · rw [hcell]
    simp only [Site.Made, hinstances]
    exact h.filled
  · rw [hcell]
    exact h.injective

/-- Who made an instance stays so. -/
theorem MadeBy.mono {x : Nat} (h : w.MadeBy k x) (hinstances : w.instances <+: w'.instances) : w'.MadeBy k x := by
  obtain ⟨more, hmore⟩ := hinstances
  obtain ⟨type, construct, arguments, answers, hmade⟩ := h
  refine ⟨type, construct, arguments, answers, ?_⟩
  rw [← hmore, List.getElem?_append_left (List.getElem?_eq_some_iff.mp hmade).1, hmade]

theorem madeBy_unique {x : Nat} (hk : w.MadeBy k x) (hl : w.MadeBy l x) : k = l := by
  obtain ⟨_, _, _, _, hk⟩ := hk
  obtain ⟨_, _, _, _, hl⟩ := hl
  rw [hk] at hl
  exact Keeper.handle_injective (Instance.built.inj (Option.some.inj hl)).2.1

/-- What a provider disposes of was made by it. -/
theorem Sound.madeBy_of_mem_due {home : Nat → Option Keeper} (h : w.Sound home held) (hk : k.Settled home) {x : Nat}
    (hx : x ∈ w.due k) : w.MadeBy k x := by
  obtain ⟨cell, -, hcell⟩ := List.mem_filterMap.mp hx
  obtain ⟨t, hplace, -, hsettled, type, arguments, answers, hmade⟩ := h.filled _ _ _ hcell
  obtain ⟨d, -, heq⟩ := Option.map_eq_some_iff.mp hplace
  have hkeeper : t.keeper = k :=
    Option.some.inj (by rw [← hsettled.own, (Prod.mk.inj heq).1, hk.own])
  exact ⟨type, _, arguments, answers, hkeeper ▸ hmade⟩

theorem Sound.lt_of_mem_due {home : Nat → Option Keeper} (h : w.Sound home held) {x : Nat} (hx : x ∈ w.due k) :
    x < w.instances.length := by
  obtain ⟨cell, -, hcell⟩ := List.mem_filterMap.mp hx
  exact h.cell?_lt hcell

end World

/-! ### Endings keep a stage valid -/

namespace Stage

/-- Scopes end, and the handles change. -/
theorem Valid.ends (hs : s.Valid c held) {roots : List Keeper} {ended : List Nat} {disposed : List Keeper}
    (hends : s.world.Ends c roots ended disposed w') (hroots : ∀ k ∈ roots, k.scope = none ∧ k.Settled c.home)
    (hended : ∀ id ∈ ended, id < s.world.nextScope) {handles : List (String × Handle)}
    (hregular : ∀ x ∈ handles, x.2.Regular c) (hnames : (handles.map (·.1)).Nodup)
    (hdistinct : (Stage.mk w' handles).scopeIds.Nodup) (hclosed : ∀ x ∈ handles, x.2.Closed w'.ended) :
    (Stage.mk w' handles).Valid c held := by
  -- Whoever disposes of something is at home somewhere, so what it disposes of was made by it.
  have hsettled : ∀ k ∈ disposed, k.Settled c.home := by
    intro k hk
    rcases World.mem_roots_or_owned hends.owned hends.roots hk with ⟨hk, -⟩ | ⟨id, -, hid⟩
    · exact (hroots k hk).2
    · exact (hs.fits.owned_settled id k hid).2
  refine ⟨?_, ?_, hregular, hnames, hdistinct, hclosed, ?_, ?_, ?_⟩
  · rw [hends.result]
    exact hs.sound.congr rfl rfl
  · rw [hends.result]
    exact hs.fits.of_le (Nat.le_refl _) (Nat.le_refl _)
  · rw [hends.result]
    intro id hid
    rcases List.mem_append.mp hid with hid | hid
    · exact hs.ended_lt id hid
    · exact hended id hid
  · rw [hends.result]
    intro x hx
    rcases List.mem_append.mp hx with hx | hx
    · exact hs.disposals_lt x hx
    · obtain ⟨k, -, hx⟩ := List.mem_flatMap.mp hx
      exact hs.sound.lt_of_mem_due hx
  · rw [hends.result]
    intro x hx k hscope hmade
    rcases List.mem_append.mp hx with hx | hx
    · obtain ⟨id, hid, howned⟩ := hs.spent x hx k hscope hmade
      exact ⟨id, List.mem_append_left _ hid, howned⟩
    · obtain ⟨l, hl, hx⟩ := List.mem_flatMap.mp hx
      -- The provider that made the instance is the one that disposes of it, and a scope that ends owns it.
      obtain rfl := World.madeBy_unique hmade (hs.sound.madeBy_of_mem_due (hsettled l hl) hx)
      rcases World.mem_roots_or_owned hends.owned hends.roots hl with ⟨-, hnone⟩ | ⟨id, hid, howned⟩
      · rw [hnone] at hscope
        cases hscope
      · exact ⟨id, List.mem_append_right _ hid, howned⟩

theorem handle?_eq_some {name : String} {h : Handle} (hh : s.handle? name = some h) : (name, h) ∈ s.handles := by
  obtain ⟨x, hx, rfl⟩ := Option.map_eq_some_iff.mp hh
  have hname := List.find?_some hx
  rw [← beq_iff_eq.mp hname]
  exact List.mem_of_find?_eq_some hx

theorem handle?_of_mem (hnames : (s.handles.map (·.1)).Nodup) {x : String × Handle} (hx : x ∈ s.handles) :
    s.handle? x.1 = some x.2 := by
  cases hy : s.handles.find? (·.1 == x.1) with
  | none => exact absurd (beq_self_eq_true x.1) (List.find?_eq_none.mp hy x hx)
  | some y =>
    have hname : y.1 = x.1 := by simpa using List.find?_some hy
    have heq : y = x := List.inj_on_of_nodup_map hnames (List.mem_of_find?_eq_some hy) hx hname
    rw [handle?, hy, heq, Option.map_some]

theorem exists_of_mem_scopesOf {x : Nat × Handle} (hx : x ∈ scopesOf (s.handles.map (·.2))) :
    ∃ y ∈ s.handles, x ∈ y.2.scopes := by
  obtain ⟨h, hh, hx⟩ := mem_scopesOf.mp hx
  obtain ⟨y, hy, rfl⟩ := List.mem_map.mp hh
  exact ⟨y, hy, hx⟩

theorem without_sublist (s : Stage) (name : String) : (s.without name).Sublist s.handles := List.filter_sublist

theorem without_of_handle?_eq_none {name : String} (hnone : s.handle? name = none) : s.without name = s.handles := by
  rw [without, List.filter_eq_self]
  intro x hx
  have hx' := List.find?_eq_none.mp (Option.map_eq_none_iff.mp hnone) x hx
  simpa using hx'

/-- The other handles and the one of a name are all handles. -/
theorem perm_without {name : String} {h : Handle} (hnames : (s.handles.map (·.1)).Nodup)
    (hh : s.handle? name = some h) : s.handles.Perm ((name, h) :: s.without name) := by
  obtain ⟨world, handles⟩ := s
  change handles.Perm ((name, h) :: handles.filter (·.1 != name))
  change (handles.find? (·.1 == name)).map (·.2) = some h at hh
  change (handles.map (·.1)).Nodup at hnames
  induction handles with
  | nil => exact nomatch hh
  | cons x rest ih =>
    rw [List.map_cons, List.nodup_cons] at hnames
    obtain ⟨other, g⟩ := x
    by_cases heq : other = name
    · subst heq
      have hg : g = h := by simpa using hh
      have hrest : rest.filter (·.1 != other) = rest := List.filter_eq_self.mpr fun y hy => by
        refine bne_iff_ne.mpr fun hname => hnames.1 ?_
        exact List.mem_map.mpr ⟨y, hy, hname⟩
      rw [hg, List.filter_cons_of_neg (by simp), hrest]
    · have hfind : (rest.find? (·.1 == name)).map (·.2) = some h := by
        rwa [List.find?_cons_of_neg (by simpa using heq)] at hh
      rw [List.filter_cons_of_pos (by simpa using heq)]
      exact ((ih hfind hnames.2).cons _).trans (.swap ..)

theorem scopeIds_subset {s s' : Stage} (h : s.handles ⊆ s'.handles) : s.scopeIds ⊆ s'.scopeIds := by
  intro id hid
  obtain ⟨x, hx, rfl⟩ := List.mem_map.mp hid
  obtain ⟨y, hy, hx⟩ := exists_of_mem_scopesOf hx
  exact List.mem_map_of_mem (mem_scopesOf.mpr ⟨y.2, List.mem_map_of_mem (h hy), hx⟩)

/-- The scopes of all handles are those of the handle of a name and those of the others. -/
theorem scopeIds_perm {name : String} {h : Handle} (hnames : (s.handles.map (·.1)).Nodup)
    (hh : s.handle? name = some h) : s.scopeIds.Perm (h.scopeIds ++ (s.take name).scopeIds) := by
  rw [scopeIds, scopeIds, Handle.scopeIds, ← List.map_append, scopesOf_eq, scopesOf_eq]
  exact (((perm_without hnames hh).map _).flatMap_right _).map _

theorem Valid.scopeIds_split (hs : s.Valid c held) {name : String} {h : Handle} (hh : s.handle? name = some h) :
    h.scopeIds.Nodup ∧ (s.take name).scopeIds.Nodup ∧ h.scopeIds.Disjoint (s.take name).scopeIds :=
  List.nodup_append'.mp ((scopeIds_perm hs.names hh).nodup_iff.mp hs.distinct)

theorem Valid.take (hs : s.Valid c held) (name : String) : (s.take name).Valid c held where
  sound := hs.sound
  fits := hs.fits
  regular x hx := hs.regular x ((without_sublist s name).subset hx)
  names := hs.names.sublist ((without_sublist s name).map _)
  distinct := by
    refine hs.distinct.sublist ?_
    rw [scopeIds, scopeIds, scopesOf_eq, scopesOf_eq]
    exact (((without_sublist s name).map _).flatMap _).map _
  closed x hx := hs.closed x ((without_sublist s name).subset hx)
  ended_lt := hs.ended_lt
  disposals_lt := hs.disposals_lt
  spent := hs.spent

theorem scopeIds_append (w : World) (name : String) (h : Handle) (handles : List (String × Handle)) :
    (Stage.mk w (handles ++ [(name, h)])).scopeIds = (Stage.mk w handles).scopeIds ++ h.scopeIds := by
  simp [scopeIds, scopesOf_eq, Handle.scopeIds]

theorem mem_scopeIds {x : String × Handle} (hx : x ∈ s.handles) : x.2.scopeIds ⊆ s.scopeIds := by
  intro id hid
  obtain ⟨y, hy, rfl⟩ := List.mem_map.mp hid
  exact List.mem_map_of_mem (mem_scopesOf.mpr ⟨x.2, List.mem_map_of_mem hx, hy⟩)

theorem scopeIdsOf_subset (s : Stage) (name : String) : s.scopeIdsOf name ⊆ s.scopeIds := by
  rw [scopeIdsOf]
  cases hh : s.handle? name with
  | none => exact List.nil_subset _
  | some h => exact mem_scopeIds (handle?_eq_some hh)

theorem Valid.scopeId_lt (hs : s.Valid c held) {id : Nat} (hid : id ∈ s.scopeIds) : id < s.world.nextScope := by
  obtain ⟨x, hx, rfl⟩ := List.mem_map.mp hid
  obtain ⟨y, hy, hx⟩ := exists_of_mem_scopesOf hx
  exact hs.fits.lt_of_mem_scopes (hs.regular y hy) hx

/-- Letting go of a handle ends none of the scopes under other names. -/
theorem Valid.release (hs : s.Valid c held) {name : String} {old : Handle} (hold : s.handle? name = some old)
    (remaining : List Handle) : ∃ ended disposed,
      s.world.Ends c [] ended disposed (s.world.release old remaining) ∧ ended ⊆ old.scopeIds ∧
        ∀ x ∈ s.without name, x.2.Closed (s.world.release old remaining).ended := by
  have hmem := handle?_eq_some hold
  obtain ⟨⟨E, L, hends, hsub⟩, -⟩ := (hs.regular _ hmem).release s.world remaining
  refine ⟨E, L, hends, hsub, fun x hx => ?_⟩
  rw [hends.result]
  refine (hs.closed x ((without_sublist s name).subset hx)).append fun id hid hidx => ?_
  exact (hs.scopeIds_split hold).2.2 (hsub hid) (mem_scopeIds (s := s.take name) hx hidx)

/-- A scope that nothing leads to any more has ended. -/
theorem Valid.lost_of_release (hs : s.Valid c held) {name : String} {old : Handle} (hold : s.handle? name = some old)
    {handles : List (String × Handle)} (hsub : s.without name ⊆ handles) {id : Nat} (hid : id ∈ s.scopeIds) :
    id ∈ (Stage.mk w' handles).scopeIds ∨ id ∈ (s.world.release old (handles.map (·.2))).ended := by
  by_cases hkept : id ∈ (Stage.mk w' handles).scopeIds
  · exact .inl hkept
  · rcases List.mem_append.mp ((scopeIds_perm hs.names hold).mem_iff.mp hid) with hid | hid
    · exact .inr (((hs.regular _ (handle?_eq_some hold)).release s.world _).2 id hid hkept)
    · have hothers : (s.take name).scopeIds ⊆ (Stage.mk w' handles).scopeIds := scopeIds_subset hsub
      exact absurd (hothers hid) hkept

theorem not_mem_without (s : Stage) (name : String) : name ∉ (s.without name).map (·.1) := by
  intro hmem
  obtain ⟨x, hx, hname⟩ := List.mem_map.mp hmem
  exact bne_iff_ne.mp (List.mem_filter.mp hx).2 hname

theorem put_handles (s : Stage) (name : String) (h : Handle) :
    (s.put name h).handles = s.without name ++ [(name, h)] := by
  rw [put]
  split <;> rfl

theorem nodup_names_put (hnames : (s.handles.map (·.1)).Nodup) (name : String) (h : Handle) :
    ((s.without name ++ [(name, h)]).map (·.1)).Nodup := by
  rw [List.map_append]
  refine (hnames.sublist ((without_sublist s name).map _)).append (List.nodup_singleton _) fun n hn hn' => ?_
  obtain rfl : n = name := List.mem_singleton.mp hn'
  exact not_mem_without s n hn

/-- A handle whose scopes are new gets a name. -/
theorem Valid.put (hs : s.Valid c held) {h : Handle} (hh : h.Regular c) (hdistinct : h.scopeIds.Nodup)
    (hdisjoint : s.scopeIds.Disjoint h.scopeIds) (hclosed : h.Closed s.world.ended) (name : String) :
    (s.put name h).Valid c held ∧ (∀ id ∈ s.scopeIds, id ∈ (s.put name h).scopeIds ∨ id ∈ (s.put name h).world.ended) ∧
      ∃ ended disposed, s.world.Ends c [] ended disposed (s.put name h).world ∧ ended ⊆ s.scopeIdsOf name := by
  have htake := hs.take name
  have hsub : (s.take name).scopeIds ⊆ s.scopeIds := scopeIds_subset (without_sublist s name).subset
  have hregular : ∀ x ∈ s.without name ++ [(name, h)], x.2.Regular c := by
    intro x hx
    rcases List.mem_append.mp hx with hx | hx
    · exact htake.regular x hx
    · exact List.mem_singleton.mp hx ▸ hh
  have hnames := nodup_names_put hs.names name h
  -- The old handle of the name is let go only after the new one has its place.
  have hids (w : World) : (Stage.mk w (s.without name ++ [(name, h)])).scopeIds.Nodup := by
    rw [scopeIds_append]
    exact htake.distinct.append hdistinct fun id hid hid' => hdisjoint (hsub hid) hid'
  have hkeep : s.without name ⊆ s.without name ++ [(name, h)] := List.subset_append_left _ _
  rw [Stage.put, scopeIdsOf]
  cases hold : s.handle? name with
  | none =>
    have hall : s.handles ⊆ s.without name ++ [(name, h)] := by
      intro x hx
      rw [← without_of_handle?_eq_none hold] at hx
      exact hkeep hx
    refine ⟨hs.ends (.refl c s.world) (by simp) (by simp) hregular hnames (hids _) fun x hx => ?_,
      fun id hid => .inl (scopeIds_subset hall hid), [], [], .refl c s.world, List.nil_subset _⟩
    rcases List.mem_append.mp hx with hx | hx
    · exact htake.closed x hx
    · exact List.mem_singleton.mp hx ▸ hclosed
  | some old =>
    obtain ⟨E, L, hends, hE, hothers⟩ := hs.release hold ((s.without name ++ [(name, h)]).map (·.2))
    have hknown : E ⊆ s.scopeIds := List.Subset.trans hE (mem_scopeIds (handle?_eq_some hold))
    refine ⟨hs.ends hends (by simp) (fun id hid => hs.scopeId_lt (hknown hid)) hregular hnames (hids _) fun x hx => ?_,
      fun id hid => hs.lost_of_release hold hkeep hid, E, L, hends, hE⟩
    rcases List.mem_append.mp hx with hx | hx
    · exact hothers x hx
    · rw [List.mem_singleton.mp hx, hends.result]
      exact hclosed.append fun id hid hmem => hdisjoint (hknown hid) hmem

/-- New numbers change nothing else. -/
theorem Valid.extend (hs : s.Valid c held) (hext : c.Extends c') (hfits : c'.Fits w')
    (hframe : w' = { s.world with nextStore := w'.nextStore, nextScope := w'.nextScope })
    (hle : s.world.nextScope ≤ w'.nextScope) : (Stage.mk w' s.handles).Valid c' held where
  sound := by
    rw [hframe]
    exact (hs.sound.mono hext.home).congr rfl rfl
  fits := hfits
  regular x hx := (hs.regular x hx).mono hext
  names := hs.names
  distinct := hs.distinct
  closed := by
    rw [hframe]
    exact hs.closed
  ended_lt id hid := by
    rw [hframe] at hid
    exact Nat.lt_of_lt_of_le (hs.ended_lt id hid) hle
  disposals_lt := by
    rw [hframe]
    exact hs.disposals_lt
  spent := by
    rw [hframe]
    intro x hx k hscope hmade
    obtain ⟨id, hid, howned⟩ := hs.spent x hx k hscope hmade
    exact ⟨id, hid, hext.owned_eq_some howned⟩

end Stage

end ServiceContainer
