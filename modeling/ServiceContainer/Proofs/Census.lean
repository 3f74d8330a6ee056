import Mathlib.Logic.Function.Basic
import ServiceContainer.Proofs.Delivery
import ServiceContainer.World.Scope

/-!
# Who owns what

A census says which provider a store of cells belongs to, and which scoped provider a scope owns. The handles of a run
are regular for some census: root providers, scopes around scoped providers, scopes that hold the scopes of several
providers, and compositions of such. Creating a scope takes numbers that the census does not know, so it extends the
census and contradicts nothing in it.

## Main definitions

* `Census`, `Census.Fits` — the numbers in use, and a world whose numbers they are
* `Handle.Regular` — the handles of a run
* `Census.Grown` — what new scopes do to a census

## Main statements

* `Handle.Regular.createScope` — new scopes are regular for an extended census
* `Handle.Regular.isNested_createScope` — a scope on a scope owns nothing
-/

namespace ServiceContainer

/-! ### Censuses -/

/-- What stores and scopes are known, by their numbers. -/
structure Census where
  /-- The provider that a store belongs to. -/
  home : Nat → Option Keeper
  /-- The scoped provider that a scope owns, which may be none. -/
  scope? : Nat → Option (Option Keeper)

namespace Census

/-- Nothing is known. -/
def empty : Census := ⟨fun _ => none, fun _ => none⟩

/-- The scoped provider that a scope owns. -/
def owned (c : Census) (id : Nat) : Option Keeper := (c.scope? id).join

/-- What is known stays known. -/
structure Extends (c c' : Census) : Prop where
  home : ∀ n k, c.home n = some k → c'.home n = some k
  scope? : ∀ id x, c.scope? id = some x → c'.scope? id = some x

/-- The numbers of the census are in use in the world, and no provider is owned twice. -/
structure Fits (c : Census) (w : World) : Prop where
  store_lt : ∀ n k, c.home n = some k → n < w.nextStore
  scope_lt : ∀ id x, c.scope? id = some x → id < w.nextScope
  owned_settled : ∀ id k, c.owned id = some k → k.scope.isSome ∧ k.Settled c.home
  owned_injective : ∀ id id' k, c.owned id = some k → c.owned id' = some k → id = id'

/-- The assemblies of all providers that are at home somewhere are admitted. -/
def Admits (c : Census) (admitted : Assembly → Prop) : Prop := ∀ n k, c.home n = some k → admitted k.assembly

/-- The census with a scope. -/
def withScope (c : Census) (id : Nat) (x : Option Keeper) : Census :=
  { c with scope? := Function.update c.scope? id (some x) }

/-- The census with a provider at home in a store. -/
def withHome (c : Census) (n : Nat) (k : Keeper) : Census := { c with home := Function.update c.home n (some k) }

variable {c c' c'' : Census} {w w' : World}

theorem withScope_scope? (c : Census) (id : Nat) (x : Option Keeper) (id' : Nat) :
    (c.withScope id x).scope? id' = if id' = id then some x else c.scope? id' :=
  Function.update_apply ..

theorem withHome_home (c : Census) (n : Nat) (k : Keeper) (m : Nat) :
    (c.withHome n k).home m = if m = n then some k else c.home m :=
  Function.update_apply ..

theorem owned_withScope (c : Census) (id : Nat) (x : Option Keeper) (id' : Nat) :
    (c.withScope id x).owned id' = if id' = id then x else c.owned id' := by
  rw [owned, withScope_scope?]
  split <;> rfl

theorem Extends.refl (c : Census) : c.Extends c := ⟨fun _ _ h => h, fun _ _ h => h⟩

theorem Extends.trans (h : c.Extends c') (h' : c'.Extends c'') : c.Extends c'' :=
  ⟨fun n k hn => h'.home n k (h.home n k hn), fun id x hid => h'.scope? id x (h.scope? id x hid)⟩

theorem Extends.owned_eq (h : c.Extends c') {id : Nat} {x : Option Keeper} (hid : c.scope? id = some x) :
    c'.owned id = c.owned id := by
  rw [owned, owned, h.scope? id x hid, hid]

theorem Extends.owned_eq_some (h : c.Extends c') {id : Nat} {k : Keeper} (hid : c.owned id = some k) :
    c'.owned id = some k := by
  obtain ⟨o, ho, -⟩ := Option.bind_eq_some_iff.mp hid
  rw [h.owned_eq ho, hid]

theorem extends_withScope {id : Nat} (hid : c.scope? id = none) (x : Option Keeper) : c.Extends (c.withScope id x) := by
  refine ⟨fun _ _ h => h, fun id' y hy => ?_⟩
  have hne : id' ≠ id := by
    rintro rfl
    exact nomatch hid.symm.trans hy
  rw [withScope_scope?, if_neg hne, hy]

theorem extends_withHome {n : Nat} (hn : c.home n = none) (k : Keeper) : c.Extends (c.withHome n k) := by
  refine ⟨fun m l hl => ?_, fun _ _ h => h⟩
  have hne : m ≠ n := by
    rintro rfl
    exact nomatch hn.symm.trans hl
  rw [withHome_home, if_neg hne, hl]

theorem Admits.withHome {admitted : Assembly → Prop} (h : c.Admits admitted) (n : Nat) {k : Keeper}
    (hk : admitted k.assembly) : (c.withHome n k).Admits admitted := by
  intro m l hl
  rw [withHome_home] at hl
  split at hl
  · exact Option.some.inj hl ▸ hk
  · exact h m l hl

theorem Fits.scope?_eq_none (h : c.Fits w) : c.scope? w.nextScope = none := by
  cases hx : c.scope? w.nextScope with
  | none => rfl
  | some x => exact absurd (h.scope_lt _ x hx) (Nat.lt_irrefl _)

theorem Fits.home_eq_none (h : c.Fits w) : c.home w.nextStore = none := by
  cases hk : c.home w.nextStore with
  | none => rfl
  | some k => exact absurd (h.store_lt _ k hk) (Nat.lt_irrefl _)

/-- Only the numbers that are in use matter. -/
theorem Fits.of_le (h : c.Fits w) (hstore : w.nextStore ≤ w'.nextStore) (hscope : w.nextScope ≤ w'.nextScope) :
    c.Fits w' where
  store_lt n k hn := Nat.lt_of_lt_of_le (h.store_lt n k hn) hstore
  scope_lt id x hx := Nat.lt_of_lt_of_le (h.scope_lt id x hx) hscope
  owned_settled := h.owned_settled
  owned_injective := h.owned_injective

end Census

section

variable {c c' : Census} {home home' : Nat → Option Keeper} {k : Keeper}

theorem Keeper.Settled.mono (hk : k.Settled home) (hhome : ∀ n l, home n = some l → home' n = some l) :
    k.Settled home' :=
  ⟨hk.orderly, hhome _ _ hk.own, hhome _ _ hk.under⟩

theorem Handle.Settled.mono {h : Handle} (hh : h.Settled home) (hhome : ∀ n l, home n = some l → home' n = some l) :
    h.Settled home' :=
  ⟨hh.1, fun k hk => (hh.2 k hk).mono hhome⟩

theorem World.Sound.mono {w : World} {held : List Receipt} (hw : w.Sound home held)
    (hhome : ∀ n l, home n = some l → home' n = some l) : w.Sound home' held where
  served x hx := ⟨(hw.served x hx).1.mono hhome, (hw.served x hx).2⟩
  bound := hw.bound
  kept := hw.kept
  loose := hw.loose
  apart := hw.apart
  filled n c id hc :=
    let ⟨s, hplace, hs, hsettled, hmade⟩ := hw.filled n c id hc
    ⟨s, hplace, hs, hsettled.mono hhome, hmade⟩
  injective := hw.injective

end

/-! ### Regular handles -/

/-- The handle is a scope. -/
def Handle.IsScope : Handle → Prop
  | .scope _ _ _ => True
  | _ => False

/-- The scoped provider that the handle owns, if it is a scope that does. -/
def Handle.owned? : Handle → Option Keeper
  | .scope _ true (.scoped a (.root _ r) n) => some ⟨a, r, some n⟩
  | _ => none

/-- The handle is made of the providers and scopes of a census. -/
inductive Handle.Regular (c : Census) : Handle → Prop where
  | root {k : Keeper} (settled : k.Settled c.home) (root : k.scope = none) : Regular c k.handle
  | scope {k : Keeper} {id : Nat} {owner : Bool} (settled : k.Settled c.home) (inScope : k.scope.isSome = true)
    (known : c.scope? id = some (if owner then some k else none)) : Regular c (.scope id owner k.handle)
  | group {id : Nat} {parts : List Handle} (regular : ∀ h ∈ parts, Regular c h) (scopes : ∀ h ∈ parts, h.IsScope)
    (known : c.scope? id = some none) : Regular c (.scope id true (.composed parts))
  | composed {parts : List Handle} (regular : ∀ h ∈ parts, Regular c h) : Regular c (.composed parts)

section

variable {c c' : Census} {h : Handle}

theorem Handle.Regular.mono (hh : h.Regular c) (hc : c.Extends c') : h.Regular c' := by
  induction hh with
  | root settled root => exact .root (settled.mono hc.home) root
  | scope settled inScope known => exact .scope (settled.mono hc.home) inScope (hc.scope? _ _ known)
  | group _ scopes known ih => exact .group ih scopes (hc.scope? _ _ known)
  | composed _ ih => exact .composed ih

theorem Handle.Regular.settled (hh : h.Regular c) : h.Settled c.home := by
  have hparts {parts : List Handle} (ih : ∀ h ∈ parts, h.Settled c.home) : (Handle.composed parts).Settled c.home := by
    refine ⟨.composed fun h hmem => (ih h hmem).1, fun k hk => ?_⟩
    rw [Handle.keepers, keepersOf_eq] at hk
    obtain ⟨h, hmem, hk⟩ := List.mem_flatMap.mp hk
    exact (ih h hmem).2 k hk
  induction hh with
  | root settled _ => exact settled.handle
  | scope settled _ _ => exact ⟨.scope _ _ settled.handle.1, settled.handle.2⟩
  | group _ _ _ ih => exact ⟨.scope _ _ (hparts ih).1, (hparts ih).2⟩
  | composed _ ih => exact hparts ih

theorem scopesOf_eq (hs : List Handle) : scopesOf hs = hs.flatMap Handle.scopes := by
  induction hs with
  | nil => rw [scopesOf, List.flatMap_nil]
  | cons h rest ih => rw [scopesOf, ih, List.flatMap_cons]

theorem mem_scopesOf {hs : List Handle} {x : Nat × Handle} : x ∈ scopesOf hs ↔ ∃ h ∈ hs, x ∈ h.scopes := by
  rw [scopesOf_eq, List.mem_flatMap]

theorem Handle.mem_scopes_composed {parts : List Handle} {x : Nat × Handle} :
    x ∈ (Handle.composed parts).scopes ↔ ∃ p ∈ parts, x ∈ p.scopes := by
  rw [Handle.scopes, mem_scopesOf]

@[simp] theorem Keeper.scopes_handle (k : Keeper) : k.handle.scopes = [] := by
  obtain ⟨a, s, _ | n⟩ := k <;> simp [Keeper.handle, Handle.scopes]

/-- What is inside a regular scope, and what the census knows of it. -/
theorem Handle.Regular.of_scope {id : Nat} {owner : Bool} {inner : Handle}
    (hh : (Handle.scope id owner inner).Regular c) :
    (∃ k : Keeper, inner = k.handle ∧ k.scope.isSome = true ∧ c.scope? id = some (if owner then some k else none)) ∨
      ∃ parts, inner = .composed parts ∧ owner = true ∧ (∀ p ∈ parts, p.Regular c) ∧ c.scope? id = some none := by
  generalize hg : Handle.scope id owner inner = g at hh
  cases hh with
  | @root k =>
    -- A root provider is no scope.
    obtain ⟨a, s, _ | n⟩ := k <;> cases hg
  | @scope k _ _ _ inScope known =>
    obtain ⟨rfl, rfl, rfl⟩ := Handle.scope.inj hg
    exact .inl ⟨k, rfl, inScope, known⟩
  | @group _ parts regular _ known =>
    obtain ⟨rfl, rfl, rfl⟩ := Handle.scope.inj hg
    exact .inr ⟨parts, rfl, rfl, regular, known⟩
  | composed => cases hg

/-- The scopes that a regular handle leads to are regular. -/
theorem Handle.Regular.of_mem_scopes (hh : h.Regular c) {x : Nat × Handle} (hx : x ∈ h.scopes) :
    x.2.Regular c ∧ ∃ owner inner, x.2 = .scope x.1 owner inner := by
  induction hh with
  | root => simp at hx
  | scope settled inScope known =>
    rw [Handle.scopes, Keeper.scopes_handle, List.mem_singleton] at hx
    subst hx
    exact ⟨.scope settled inScope known, _, _, rfl⟩
  | group regular scopes known ih =>
    rw [Handle.scopes, List.mem_cons] at hx
    rcases hx with rfl | hx
    · exact ⟨.group regular scopes known, _, _, rfl⟩
    · obtain ⟨p, hp, hx⟩ := Handle.mem_scopes_composed.mp hx
      exact ih p hp hx
  | composed _ ih =>
    obtain ⟨p, hp, hx⟩ := Handle.mem_scopes_composed.mp hx
    exact ih p hp hx

/-- The scopes that a regular handle leads to are known to the census. -/
theorem Handle.Regular.scope_known (hh : h.Regular c) {x : Nat × Handle} (hx : x ∈ h.scopes) :
    ∃ o, c.scope? x.1 = some o := by
  obtain ⟨hregular, owner, inner, heq⟩ := hh.of_mem_scopes hx
  rw [heq] at hregular
  rcases hregular.of_scope with ⟨k, -, -, hknown⟩ | ⟨parts, -, -, -, hknown⟩
  · exact ⟨_, hknown⟩
  · exact ⟨_, hknown⟩

/-- The census knows what the scopes own that a regular handle leads to. -/
theorem Handle.Regular.owned?_eq (hh : h.Regular c) {x : Nat × Handle} (hx : x ∈ h.scopes) :
    x.2.owned? = c.owned x.1 := by
  obtain ⟨hregular, owner, inner, heq⟩ := hh.of_mem_scopes hx
  rw [heq] at hregular ⊢
  rw [Census.owned]
  rcases hregular.of_scope with ⟨k, rfl, hscope, hknown⟩ | ⟨parts, rfl, rfl, -, hknown⟩
  · rw [hknown]
    obtain ⟨a, s, _ | n⟩ := k
    · cases hscope
    · cases owner <;> rfl
  · rw [hknown]
    rfl

end

/-! ### New scopes -/

namespace Census

variable {c c' c'' : Census} {w w' w'' : World}

/-- A number for a scope that owns a provider that no other scope owns. -/
theorem Fits.withScope (h : c.Fits w) {x : Option Keeper}
    (hx : ∀ k, x = some k → (k.scope.isSome ∧ k.Settled c.home) ∧ ∀ id, c.owned id ≠ some k) :
    (c.withScope w.nextScope x).Fits w.newScope.2 where
  store_lt := h.store_lt
  scope_lt id y hy := by
    rw [withScope_scope?] at hy
    change id < w.nextScope + 1
    split at hy
    · omega
    · exact Nat.lt_succ_of_lt (h.scope_lt id y hy)
  owned_settled id k hk := by
    rw [owned_withScope] at hk
    split at hk
    · exact (hx k hk).1
    · exact h.owned_settled id k hk
  owned_injective id id' k hk hk' := by
    rw [owned_withScope] at hk hk'
    split at hk <;> split at hk'
    · omega
    · exact absurd hk' ((hx k hk).2 id')
    · exact absurd hk ((hx k hk').2 id)
    · exact h.owned_injective id id' k hk hk'

/-- A number for the store of a provider. -/
theorem Fits.withHome (h : c.Fits w) (k : Keeper) : (c.withHome w.nextStore k).Fits w.newStore.2 where
  store_lt n l hn := by
    rw [withHome_home] at hn
    change n < w.nextStore + 1
    split at hn
    · omega
    · exact Nat.lt_succ_of_lt (h.store_lt n l hn)
  scope_lt := h.scope_lt
  owned_settled id l hl :=
    ⟨(h.owned_settled id l hl).1, (h.owned_settled id l hl).2.mono (extends_withHome h.home_eq_none k).home⟩
  owned_injective := h.owned_injective

/-- The handles are new scopes, with numbers that were not in use; nothing else changed. -/
structure Grown (c c' : Census) (w w' : World) (hs : List Handle) : Prop where
  extension : c.Extends c'
  admits : ∀ admitted, c.Admits admitted → c'.Admits admitted
  fits : c'.Fits w'
  frame : w' = { w with nextStore := w'.nextStore, nextScope := w'.nextScope }
  scope_le : w.nextScope ≤ w'.nextScope
  regular : ∀ h ∈ hs, h.Regular c'
  scopes : ∀ h ∈ hs, h.IsScope
  distinct : ((scopesOf hs).map (·.1)).Nodup
  above : ∀ x ∈ scopesOf hs, w.nextScope ≤ x.1

/-- The numbers of regular handles are in use. -/
theorem Fits.lt_of_mem_scopes (hc : c.Fits w) {h : Handle} (hh : h.Regular c) {x : Nat × Handle} (hx : x ∈ h.scopes) :
    x.1 < w.nextScope := by
  obtain ⟨o, ho⟩ := hh.scope_known hx
  exact hc.scope_lt _ o ho

theorem Fits.lt_of_mem_scopesOf (hc : c.Fits w) {hs : List Handle} (hhs : ∀ h ∈ hs, h.Regular c) {x : Nat × Handle}
    (hx : x ∈ scopesOf hs) : x.1 < w.nextScope := by
  obtain ⟨h, hh, hx⟩ := mem_scopesOf.mp hx
  exact hc.lt_of_mem_scopes (hhs h hh) hx

theorem Grown.nil (hc : c.Fits w) : c.Grown c w w [] :=
  ⟨.refl c, fun _ h => h, hc, rfl, Nat.le_refl _, by simp, by simp, by simp [scopesOf], by simp [scopesOf]⟩

theorem Grown.cons {h : Handle} {hs : List Handle} (hh : c.Grown c' w w' [h]) (hhs : c'.Grown c'' w' w'' hs) :
    c.Grown c'' w w'' (h :: hs) where
  extension := hh.extension.trans hhs.extension
  admits admitted hc := hhs.admits admitted (hh.admits admitted hc)
  fits := hhs.fits
  frame := by rw [hhs.frame, hh.frame]
  scope_le := Nat.le_trans hh.scope_le hhs.scope_le
  regular := List.forall_mem_cons.mpr
    ⟨(hh.regular h List.mem_cons_self).mono hhs.extension, hhs.regular⟩
  scopes := List.forall_mem_cons.mpr ⟨hh.scopes h List.mem_cons_self, hhs.scopes⟩
  distinct := by
    have hfirst := hh.distinct
    rw [scopesOf, scopesOf, List.append_nil] at hfirst
    rw [scopesOf, List.map_append]
    refine hfirst.append hhs.distinct fun id hid hid' => ?_
    obtain ⟨x, hx, rfl⟩ := List.mem_map.mp hid
    obtain ⟨y, hy, heq⟩ := List.mem_map.mp hid'
    -- The numbers of the first scope are in use when the others take theirs.
    have hlt := hh.fits.lt_of_mem_scopes (hh.regular h List.mem_cons_self) hx
    have hle := hhs.above y hy
    omega
  above x hx := by
    rw [scopesOf, List.mem_append] at hx
    rcases hx with hx | hx
    · exact hh.above x (by rwa [scopesOf, scopesOf, List.append_nil])
    · exact Nat.le_trans hh.scope_le (hhs.above x hx)

/-- A scope that holds new scopes. -/
theorem Grown.group {hs : List Handle} (h : c.Grown c' w w' hs) :
    c.Grown (c'.withScope w'.nextScope none) w w'.newScope.2 [.scope w'.nextScope true (.composed hs)] := by
  have hext := extends_withScope h.fits.scope?_eq_none none
  refine ⟨h.extension.trans hext, h.admits, h.fits.withScope (fun _ hk => nomatch hk), ?_, ?_, ?_, ?_, ?_, ?_⟩
  · rw [World.newScope, h.frame]
  · exact Nat.le_succ_of_le h.scope_le
  · intro g hg
    rw [List.mem_singleton.mp hg]
    exact .group (fun p hp => (h.regular p hp).mono hext) h.scopes (Function.update_self ..)
  · intro g hg
    rw [List.mem_singleton.mp hg]
    exact trivial
  · rw [scopesOf, scopesOf, Handle.scopes, Handle.scopes, List.append_nil, List.map_cons, List.nodup_cons]
    refine ⟨fun hmem => ?_, h.distinct⟩
    obtain ⟨x, hx, heq⟩ := List.mem_map.mp hmem
    exact absurd heq (Nat.ne_of_lt (h.fits.lt_of_mem_scopesOf h.regular hx))
  · intro x hx
    rw [scopesOf, scopesOf, Handle.scopes, Handle.scopes, List.append_nil, List.mem_cons] at hx
    rcases hx with rfl | hx
    · exact h.scope_le
    · exact h.above x hx

/-- A scope around a scoped provider. -/
theorem Grown.scope {k : Keeper} (owner : Bool) (hext : c.Extends c')
    (hadmits : ∀ admitted, c.Admits admitted → c'.Admits admitted) (hc : c'.Fits w')
    (hframe : w' = { w with nextStore := w'.nextStore, nextScope := w'.nextScope }) (hle : w.nextScope ≤ w'.nextScope)
    (hk : k.Settled c'.home) (hscope : k.scope.isSome = true) (hfree : owner = true → ∀ id, c'.owned id ≠ some k) :
    c.Grown (c'.withScope w'.nextScope (if owner then some k else none)) w w'.newScope.2
      [.scope w'.nextScope owner k.handle] := by
  have hknown := extends_withScope hc.scope?_eq_none (if owner then some k else none)
  refine ⟨hext.trans hknown, hadmits, hc.withScope fun l hl => ?_, ?_, Nat.le_succ_of_le hle, ?_, ?_, ?_, ?_⟩
  · rw [Option.ite_none_right_eq_some, Option.some.injEq] at hl
    obtain ⟨howner, rfl⟩ := hl
    exact ⟨⟨hscope, hk⟩, hfree howner⟩
  · rw [World.newScope, hframe]
  · intro g hg
    rw [List.mem_singleton.mp hg]
    exact .scope (hk.mono hknown.home) hscope (Function.update_self ..)
  · intro g hg
    rw [List.mem_singleton.mp hg]
    exact trivial
  · simp [scopesOf, Handle.scopes]
  · intro x hx
    simp only [scopesOf, Handle.scopes, Keeper.scopes_handle, List.append_nil, List.mem_singleton] at hx
    rw [hx]
    exact hle

end Census

section

variable {c c' : Census} {w : World} {h : Handle}

/-- Creating scopes on regular handles in order. -/
theorem createScopes_grown {parts : List Handle}
    (ih : ∀ h ∈ parts, ∀ (c' : Census) (w : World), c.Extends c' → c'.Fits w →
      ∃ c'', c'.Grown c'' w (h.createScope w).2 [(h.createScope w).1])
    (hext : c.Extends c') (hc : c'.Fits w) :
    ∃ c'', c'.Grown c'' w (createScopes parts w).2 (createScopes parts w).1 := by
  induction parts generalizing c' w with
  | nil => exact ⟨c', .nil hc⟩
  | cons h rest ihrest =>
    obtain ⟨c₁, h₁⟩ := ih h List.mem_cons_self c' w hext hc
    obtain ⟨c₂, h₂⟩ := ihrest (fun g hg => ih g (List.mem_cons_of_mem h hg)) (hext.trans h₁.extension) h₁.fits
    exact ⟨c₂, h₁.cons h₂⟩

/-- A new scope is regular for a census that knows it. -/
theorem Handle.Regular.createScope (hh : h.Regular c) (hext : c.Extends c') (hc : c'.Fits w) :
    ∃ c'', c'.Grown c'' w (h.createScope w).2 [(h.createScope w).1] := by
  have hgroup {parts : List Handle}
      (ih : ∀ h ∈ parts, ∀ (c' : Census) (w : World), c.Extends c' → c'.Fits w →
        ∃ c'', c'.Grown c'' w (h.createScope w).2 [(h.createScope w).1])
      {c' : Census} {w : World} (hext : c.Extends c') (hc : c'.Fits w) :
      ∃ c'', c'.Grown c'' w ((Handle.composed parts).createScope w).2 [((Handle.composed parts).createScope w).1] := by
    obtain ⟨c₁, h₁⟩ := createScopes_grown ih hext hc
    exact ⟨_, h₁.group⟩
  -- The parts of a composition are scoped one after another, each for a census that the last one has extended.
  induction hh generalizing c' w with
  | @root k settled isRoot =>
    obtain ⟨a, s, _ | n⟩ := k
    · have hk := settled.mono hext.home
      -- The new scope gets a store, and a provider that is at home there.
      have hhome := Census.extends_withHome hc.home_eq_none (Keeper.inScope ⟨a, s, none⟩ w.nextStore)
      have hinner : (Keeper.inScope ⟨a, s, none⟩ w.nextStore).Settled (c'.withHome w.nextStore _).home :=
        ⟨hk.orderly, by rw [Census.withHome_home, Keeper.store, Keeper.inScope, Option.getD_some, if_pos rfl],
          hhome.home _ _ hk.under⟩
      have hadmits : ∀ admitted, c'.Admits admitted →
          (c'.withHome w.nextStore (Keeper.inScope ⟨a, s, none⟩ w.nextStore)).Admits admitted := by
        intro admitted hadmitted
        have ha : admitted a := hadmitted _ _ hk.own
        exact hadmitted.withHome _ ha
      refine ⟨_, Census.Grown.scope true hhome hadmits (hc.withHome _) rfl (Nat.le_refl _) hinner rfl
        fun _ id hid => ?_⟩
      have howned := (hc.owned_settled id _ hid).2.own
      exact nomatch hc.home_eq_none.symm.trans howned
    · exact nomatch isRoot
  | @scope k id owner settled inScope _ =>
    obtain ⟨a, s, _ | n⟩ := k
    · exact nomatch inScope
    · exact ⟨_, Census.Grown.scope false (.refl c') (fun _ h => h) hc rfl (Nat.le_refl _) (settled.mono hext.home)
        inScope fun hfalse => nomatch hfalse⟩
  | group _ _ _ ih => exact hgroup (fun p hp c' w => ih p hp) hext hc
  | composed _ ih => exact hgroup (fun p hp c' w => ih p hp) hext hc

/-- The scopes that the handle leads to own no provider. -/
def Handle.IsNested (h : Handle) : Prop := h.IsScope ∧ ∀ x ∈ h.scopes, x.2.owned? = none

theorem isNested_createScopes {parts : List Handle}
    (ih : ∀ h ∈ parts, ∀ w : World, (h.createScope w).1.IsNested) (w : World) :
    ∀ h ∈ (createScopes parts w).1, h.IsNested := by
  induction parts generalizing w with
  | nil => exact fun _ h => nomatch h
  | cons h rest ihrest =>
    intro g hg
    rcases List.mem_cons.mp hg with rfl | hg
    · exact ih h List.mem_cons_self w
    · exact ihrest (fun p hp => ih p (List.mem_cons_of_mem h hp)) _ g hg

/-- A scope on a scope owns no provider. -/
theorem Handle.Regular.isNested_createScope (hh : h.Regular c) (hscope : h.IsScope) (w : World) :
    (h.createScope w).1.IsNested := by
  induction hh generalizing w with
  | @root k _ _ => obtain ⟨a, s, _ | n⟩ := k <;> exact hscope.elim
  | @scope k id owner _ inScope _ =>
    obtain ⟨a, s, _ | n⟩ := k
    · exact nomatch inScope
    · refine ⟨trivial, fun x hx => ?_⟩
      obtain rfl := List.mem_singleton.mp hx
      rfl
  | group _ scopes _ ih =>
    have hparts := isNested_createScopes (fun p hp w => ih p hp (scopes p hp) w) w
    refine ⟨trivial, fun x hx => ?_⟩
    rcases List.mem_cons.mp hx with rfl | hx
    · rfl
    · obtain ⟨p, hp, hx⟩ := Handle.mem_scopes_composed.mp hx
      exact (hparts p hp).2 x hx
  | composed => exact hscope.elim

end

end ServiceContainer
