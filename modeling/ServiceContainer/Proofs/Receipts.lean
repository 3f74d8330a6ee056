import Mathlib.Data.List.Pairwise
import ServiceContainer.Proofs.Keeper

/-!
# Who was given which instance

Every delivery gives somebody an instance: the caller, a parameter of a constructor, or the code of a service. A world
is sound for the receipts so far when each instance of a service with a cell is the one in that cell, each instance of a
service without one was given out once and is in no cell, and no instance is in two cells. A delivery keeps this and
adds its receipt. Making an instance of a service fills the cells of services that it needs only, so in an acyclic
container the cell of the service itself is still empty when the instance is put there.

## Main definitions

* `Receipt`, `World.receipts` — what was given to whom
* `World.Sound` — the invariant
* `World.Grows` — what a delivery can change

## Main statements

* `World.Sound.hold`, `World.Sound.create`, `World.Sound.fill` — what keeps a world sound
* `Site.place?_ne_of_transGen` — the cell of a service is not one of those that it needs
-/

namespace ServiceContainer

open Relation

/-! ### Receipts -/

/-- An instance that a handle gave out for a type. -/
structure Receipt where
  handle : Handle
  type : String
  id : Nat

namespace Receipt

/-- The service that was delivered. -/
def site? (x : Receipt) : Option Site := x.handle.serving? x.type

/-- The cell that keeps the instance. -/
def place? (x : Receipt) : Option (Nat × String) := x.site?.bind Site.place?

end Receipt

/-- The receipt for a parameter that was given an instance by a provider. -/
def Argument.receipt? (k : Keeper) : Argument → Given → Option Receipt
  | .shared key, .shared id => some ⟨k.handle, k.assembly.typeName key, id⟩
  | .cloned key, .cloned id => some ⟨k.handle, k.assembly.typeName key, id⟩
  | _, _ => none

namespace Keeper

/-- The receipts for parameters. -/
def argumentReceipts (k : Keeper) (arguments : List Argument) (given : List Given) : List Receipt :=
  (arguments.zip given).filterMap fun x => x.1.receipt? k x.2

/-- The receipts for what the code of a service was answered with. -/
def answerReceipts (k : Keeper) (types : List String) (answers : List (Option Nat)) : List Receipt :=
  (types.zip answers).filterMap fun x => x.2.map (⟨k.handle, x.1, ·⟩)

/-- The receipts of an instance that the provider made. -/
def receipts (k : Keeper) (construct : Construct) (arguments : List Given) (answers : List (Option Nat)) :
    List Receipt :=
  k.argumentReceipts construct.arguments arguments ++ k.answerReceipts (k.assembly.asked construct) answers

end Keeper

/-- The receipts of an instance. -/
def Instance.receipts : Instance → List Receipt
  | .built _ maker construct arguments answers => maker.keepers.flatMap (·.receipts construct arguments answers)
  | .given _ _ => []

/-- The receipts of all instances. -/
def World.receipts (w : World) : List Receipt := w.instances.flatMap Instance.receipts

/-! ### The invariant -/

/-- The containers in question: laid out from registrations, and acyclic. -/
structure Assembly.Orderly (a : Assembly) : Prop where
  laidOut : ∃ rs, a.LaidOut rs
  acyclic : a.Acyclic

/-- The provider and the root provider under it are where their stores say. -/
structure Keeper.Settled (home : Nat → Option Keeper) (k : Keeper) : Prop where
  orderly : k.assembly.Orderly
  own : home k.store = some k
  under : home k.root = some k.toRoot

/-- Every provider that the handle asks is settled. -/
def Handle.Settled (home : Nat → Option Keeper) (h : Handle) : Prop := h.Plain ∧ ∀ k ∈ h.keepers, k.Settled home

/-- The instance was made for the service. -/
def Site.Made (s : Site) (w : World) (id : Nat) : Prop :=
  ∃ type arguments answers,
    w.instances[id]? = some (.built type s.keeper.handle s.accessor.construct arguments answers)

/-- The accessor is one of the provider. -/
def Site.Genuine (s : Site) : Prop := s.accessor ∈ s.keeper.provider.accessors

namespace World

/-- The instance is in no cell and on no receipt. -/
structure Unclaimed (w : World) (held : List Receipt) (id : Nat) : Prop where
  unheld : ∀ x ∈ held, x.id ≠ id
  unkept : ∀ n c, w.cell? n c ≠ some id

/-- The receipts agree with the cells, and the cells with the services. -/
structure Sound (home : Nat → Option Keeper) (w : World) (held : List Receipt) : Prop where
  served : ∀ x ∈ held, x.handle.Settled home ∧ ∃ s, x.site? = some s
  bound : ∀ x ∈ held, x.id < w.instances.length
  kept : ∀ x ∈ held, ∀ n c, x.place? = some (n, c) → w.cell? n c = some x.id
  loose : ∀ x ∈ held, x.place? = none → ∀ n c, w.cell? n c ≠ some x.id
  apart : held.Pairwise fun x y => x.place? = none → y.place? = none → x.id ≠ y.id
  filled : ∀ n c id, w.cell? n c = some id →
    ∃ s : Site, s.place? = some (n, c) ∧ s.Genuine ∧ s.keeper.Settled home ∧ s.Made w id
  injective : ∀ n c m d id, w.cell? n c = some id → w.cell? m d = some id → n = m ∧ c = d

/-- Instances and filled cells stay, and a cell that is filled is one of the given services. -/
structure Grows (w w' : World) (services : Site → Prop) : Prop where
  instances : w.instances <+: w'.instances
  kept : ∀ n c id, w.cell? n c = some id → w'.cell? n c = some id
  filled : ∀ n c id, w.cell? n c = none → w'.cell? n c = some id → ∃ s, services s ∧ s.place? = some (n, c)
  nextStore : w'.nextStore = w.nextStore
  nextScope : w'.nextScope = w.nextScope
  ended : w'.ended = w.ended
  disposals : w'.disposals = w.disposals
  calls : w'.calls = w.calls

variable {w w' w'' : World} {home : Nat → Option Keeper} {held held' : List Receipt} {services : Site → Prop}

/-! ### Growth -/

theorem Grows.refl (w : World) (services : Site → Prop) : w.Grows w services :=
  ⟨List.prefix_refl _, fun _ _ _ h => h, fun _ _ _ h h' => (nomatch h.symm.trans h'), rfl, rfl, rfl, rfl, rfl⟩

theorem Grows.trans (h : w.Grows w' services) (h' : w'.Grows w'' services) : w.Grows w'' services where
  instances := h.instances.trans h'.instances
  kept n c id hc := h'.kept n c id (h.kept n c id hc)
  filled n c id hnone hc := by
    cases hmid : w'.cell? n c with
    | none => exact h'.filled n c id hmid hc
    | some x => exact h.filled n c x hnone hmid
  nextStore := h'.nextStore.trans h.nextStore
  nextScope := h'.nextScope.trans h.nextScope
  ended := h'.ended.trans h.ended
  disposals := h'.disposals.trans h.disposals
  calls := h'.calls.trans h.calls

theorem Grows.mono {more : Site → Prop} (h : w.Grows w' services) (hmore : ∀ s, services s → more s) :
    w.Grows w' more :=
  { h with filled := fun n c id hnone hc =>
      let ⟨s, hs, hplace⟩ := h.filled n c id hnone hc
      ⟨s, hmore s hs, hplace⟩ }

theorem grows_create (x : Instance) : w.Grows (w.create x).2 services where
  instances := List.prefix_append _ _
  kept _ _ _ h := h
  filled _ _ _ h h' := nomatch h.symm.trans h'
  nextStore := rfl
  nextScope := rfl
  ended := rfl
  disposals := rfl
  calls := rfl

theorem cell?_fill (n : Nat) (c : String) (id m : Nat) (d : String) :
    (w.fill n c id).cell? m d = (w.cell? m d).or (if n = m ∧ c = d then some id else none) := by
  simp only [cell?, fill, List.find?_append, Option.map_or]
  congr 1
  by_cases h : n = m ∧ c = d
  · simp [h]
  · have hne : ((n, c) == (m, d)) = false := by simpa using h
    simp [hne, h]

theorem grows_fill {s : Site} {n : Nat} {c : String} (hs : services s) (hplace : s.place? = some (n, c)) (id : Nat) :
    w.Grows (w.fill n c id) services where
  instances := List.prefix_refl _
  kept m d x h := by rw [cell?_fill, h, Option.some_or]
  filled m d x hnone h := by
    rw [cell?_fill, hnone, Option.none_or, Option.ite_none_right_eq_some] at h
    obtain ⟨⟨rfl, rfl⟩, -⟩ := h
    exact ⟨s, hs, hplace⟩
  nextStore := rfl
  nextScope := rfl
  ended := rfl
  disposals := rfl
  calls := rfl

/-! ### What keeps a world sound -/

theorem Sound.perm (h : w.Sound home held) (hp : held.Perm held') : w.Sound home held' where
  served x hx := h.served x (hp.mem_iff.mpr hx)
  bound x hx := h.bound x (hp.mem_iff.mpr hx)
  kept x hx := h.kept x (hp.mem_iff.mpr hx)
  loose x hx := h.loose x (hp.mem_iff.mpr hx)
  apart := (hp.pairwise_iff fun hxy hy hx => (hxy hx hy).symm).mp h.apart
  filled := h.filled
  injective := h.injective

theorem Unclaimed.perm {id : Nat} (h : w.Unclaimed held id) (hp : held.Perm held') : w.Unclaimed held' id :=
  ⟨fun x hx => h.unheld x (hp.mem_iff.mpr hx), h.unkept⟩

theorem Sound.sublist (h : w.Sound home held) (hs : held'.Sublist held) : w.Sound home held' where
  served x hx := h.served x (hs.subset hx)
  bound x hx := h.bound x (hs.subset hx)
  kept x hx := h.kept x (hs.subset hx)
  loose x hx := h.loose x (hs.subset hx)
  apart := h.apart.sublist hs
  filled := h.filled
  injective := h.injective

/-- A receipt for the instance in a cell, or for an instance that nobody has. -/
theorem Sound.hold (h : w.Sound home held) {x : Receipt} {s : Site} (hsettled : x.handle.Settled home)
    (hsite : x.site? = some s) (hbound : x.id < w.instances.length)
    (hkept : ∀ n c, s.place? = some (n, c) → w.cell? n c = some x.id)
    (hloose : s.place? = none → w.Unclaimed held x.id) : w.Sound home (x :: held) := by
  have hplace : x.place? = s.place? := by rw [Receipt.place?, hsite, Option.bind_some]
  refine ⟨?_, ?_, ?_, ?_, ?_, h.filled, h.injective⟩
  · exact List.forall_mem_cons.mpr ⟨⟨hsettled, s, hsite⟩, h.served⟩
  · exact List.forall_mem_cons.mpr ⟨hbound, h.bound⟩
  · exact List.forall_mem_cons.mpr ⟨fun n c hx => hkept n c (hplace ▸ hx), h.kept⟩
  · exact List.forall_mem_cons.mpr ⟨fun hx => (hloose (hplace ▸ hx)).unkept, h.loose⟩
  · exact List.pairwise_cons.mpr ⟨fun y hy hx _ => ((hloose (hplace ▸ hx)).unheld y hy).symm, h.apart⟩

theorem Sound.cell?_lt (h : w.Sound home held) {n : Nat} {c : String} {id : Nat} (hc : w.cell? n c = some id) :
    id < w.instances.length := by
  obtain ⟨s, -, -, -, type, arguments, answers, hmade⟩ := h.filled n c id hc
  exact (List.getElem?_eq_some_iff.mp hmade).1

theorem Sound.create (h : w.Sound home held) (y : Instance) : (w.create y).2.Sound home held where
  served := h.served
  bound x hx := by
    have hlt := h.bound x hx
    simp only [World.create, List.length_append]
    omega
  kept := h.kept
  loose := h.loose
  apart := h.apart
  filled n c id hc := by
    obtain ⟨s, hplace, hs, hsettled, type, arguments, answers, hmade⟩ := h.filled n c id hc
    refine ⟨s, hplace, hs, hsettled, type, arguments, answers, ?_⟩
    rw [World.create, List.getElem?_append_left (h.cell?_lt hc), hmade]
  injective := h.injective

/-- Nobody has a new instance yet. -/
theorem Sound.unclaimed_create (h : w.Sound home held) (y : Instance) :
    (w.create y).2.Unclaimed held (w.create y).1 where
  unheld x hx := Nat.ne_of_lt (h.bound x hx)
  unkept _ _ hc := Nat.lt_irrefl _ (h.cell?_lt hc)

/-- An instance that nobody has may be put in the cell of the service that it was made for. -/
theorem Sound.fill (h : w.Sound home held) {s : Site} {n : Nat} {c : String} {id : Nat}
    (hplace : s.place? = some (n, c)) (hs : s.Genuine) (hsettled : s.keeper.Settled home) (hmade : s.Made w id)
    (hunclaimed : w.Unclaimed held id) : (w.fill n c id).Sound home held := by
  -- Every filled cell was filled before or is the one that is filled now.
  have hcases {m : Nat} {d : String} {x : Nat} (hx : (w.fill n c id).cell? m d = some x) :
      w.cell? m d = some x ∨ n = m ∧ c = d ∧ id = x := by
    rw [cell?_fill] at hx
    cases hold : w.cell? m d with
    | some y =>
      rw [hold, Option.some_or] at hx
      exact .inl hx
    | none =>
      rw [hold, Option.none_or, Option.ite_none_right_eq_some, Option.some.injEq] at hx
      exact .inr ⟨hx.1.1, hx.1.2, hx.2⟩
  refine ⟨h.served, h.bound, fun x hx m d hplace => ?_, fun x hx hnone m d hc => ?_, h.apart, fun m d x hc => ?_,
    fun m d m' d' x hc hc' => ?_⟩
  · rw [cell?_fill, h.kept x hx m d hplace, Option.some_or]
  · rcases hcases hc with hc | ⟨-, -, rfl⟩
    · exact h.loose x hx hnone m d hc
    · exact hunclaimed.unheld x hx rfl
  · rcases hcases hc with hc | ⟨rfl, rfl, rfl⟩
    · exact h.filled m d x hc
    · exact ⟨s, hplace, hs, hsettled, hmade⟩
  · rcases hcases hc with hc | ⟨rfl, rfl, rfl⟩ <;> rcases hcases hc' with hc' | ⟨rfl, rfl, hid⟩
    · exact h.injective m d m' d' x hc hc'
    · exact absurd (hid ▸ hc) (hunclaimed.unkept m d)
    · exact absurd hc' (hunclaimed.unkept m' d')
    · exact ⟨rfl, rfl⟩

end World

/-! ### Where requests end -/

section

variable {home : Nat → Option Keeper} {k : Keeper} {h : Handle} {type : String} {s : Site}

theorem Keeper.Settled.toRoot (hk : k.Settled home) : k.toRoot.Settled home :=
  ⟨hk.orderly, hk.under, hk.under⟩

theorem Keeper.Settled.eq_of_store {l : Keeper} (hk : k.Settled home) (hl : l.Settled home)
    (hstore : k.store = l.store) : k = l :=
  Option.some.inj (by rw [← hk.own, hstore, hl.own])

theorem Keeper.Settled.of_serving? (hk : k.Settled home) (hs : k.serving? type = some s) :
    s.Genuine ∧ s.keeper.Settled home := by
  obtain ⟨-, hkeeper, -⟩ := Keeper.serving?_eq_some hs
  have hsettled : s.keeper.Settled home := by
    rcases hkeeper with heq | heq
    · exact heq ▸ hk
    · exact heq ▸ hk.toRoot
  obtain ⟨rs, hrs⟩ := hsettled.orderly.laidOut
  exact ⟨(hrs.mem_of_accessorFor? _ (Keeper.accessorFor?_of_serving? hs)).1, hsettled⟩

theorem Keeper.Settled.handle (hk : k.Settled home) : k.handle.Settled home := by
  refine ⟨.keeper k, fun l hl => ?_⟩
  rw [Keeper.keepers_handle, List.mem_singleton] at hl
  exact hl ▸ hk

theorem Handle.Settled.of_serving? (hh : h.Settled home) (hs : h.serving? type = some s) :
    s.Genuine ∧ s.keeper.Settled home := by
  obtain ⟨k, hk, hs⟩ := List.exists_of_findSome?_eq_some hs
  exact (hh.2 k hk).of_serving? hs

/-- A delivery of the type at the handle may deliver the service. -/
def Handle.Reaches (h : Handle) (type : String) (t : Site) : Prop :=
  ∃ s, h.serving? type = some s ∧ ReflTransGen Site.Needs s t

theorem Handle.Reaches.transGen {t : Site} (hreach : s.keeper.handle.Reaches type t)
    (hwants : type ∈ s.keeper.assembly.wants s.accessor.construct) : TransGen Site.Needs s t := by
  obtain ⟨u, hu, hut⟩ := hreach
  rw [Keeper.serving?_handle] at hu
  exact .head' ⟨type, hwants, hu⟩ hut

/-- Services that keep their instances in one cell are the same. -/
theorem Site.eq_of_place? {t : Site} {p : Nat × String} (hs : s.Genuine) (hsettled : s.keeper.Settled home)
    (ht : t.Genuine) (htsettled : t.keeper.Settled home) (hsp : s.place? = some p) (htp : t.place? = some p) :
    s = t := by
  obtain ⟨c, hc, heq⟩ := Option.map_eq_some_iff.mp hsp
  obtain ⟨d, hd, heq'⟩ := Option.map_eq_some_iff.mp htp
  obtain ⟨hstore, hname⟩ := Prod.mk.inj (heq.trans heq'.symm)
  -- The store names the provider, and within the provider the cell names the accessor.
  have hkeeper := hsettled.eq_of_store htsettled hstore
  obtain ⟨rs, hrs⟩ := hsettled.orderly.laidOut
  obtain ⟨xs, -, hserves⟩ := hrs.serves s.keeper.kind
  rw [Site.Genuine, ← hkeeper] at ht
  have haccessor : s.accessor = t.accessor := hserves.accessor_eq_of_cell hs ht hc hd hname
  obtain ⟨tk, tx⟩ := t
  cases hkeeper
  cases haccessor
  rfl

/-- A service keeps its instances where no service that it needs does. -/
theorem Site.place?_ne_of_transGen {t : Site} {p : Nat × String} (hs : s.Genuine) (hsettled : s.keeper.Settled home)
    (hst : TransGen Site.Needs s t) (ht : t.Genuine) (htsettled : t.keeper.Settled home)
    (hplace : s.place? = some p) : t.place? ≠ some p := by
  intro hplace'
  obtain rfl := Site.eq_of_place? hs hsettled ht htsettled hplace hplace'
  exact Site.not_transGen_needs_self hsettled.orderly.acyclic hst

end

end ServiceContainer
