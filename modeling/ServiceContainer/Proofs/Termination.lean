import ServiceContainer.Proofs.Run

/-!
# Requests end

The bound on nested makings is never reached in a container that is acyclic. A delivery asks for services that the
service needs, and none of these needs the service in turn, so each nested making has fewer services left than the one
around it. The services of a handle are as many as the bound, hence a request to any handle of a run ends.

What a service needs includes all that its code asks for, which is assumed to be the same on every making
(`Assembly.requests`) and does not depend on the answers.

## Main definitions

* `Keeper.sites` — the services that a provider can deliver

## Main statements

* `Site.halts_deliver` — a delivery ends if the services that it can lead to are no more than the bound
* `Handle.Settled.halts_get`, `Handle.Settled.halts_require` — a request ends
* `Stage.perform_run_ne_endless` — every step of every run ends
-/

namespace ServiceContainer

open Relation

/-! ### One making -/

section

variable {asker : Asker} {h : Handle} {a : Assembly}

theorem Asker.halts_require {type : String} (hget : (asker.get h type).Halts) : (asker.require h type).Halts := by
  refine hget.bind fun answer => ?_
  cases answer with
  | some x => exact .pure x
  | none => exact .throw _

theorem Argument.halts_give {argument : Argument}
    (hget : ∀ type, a.argumentType? argument = some type → (asker.get h type).Halts) :
    (argument.give asker h a).Halts := by
  cases argument with
  | shared key => exact (Asker.halts_require (hget _ rfl)).bind fun _ => .pure _
  | cloned key => exact (Asker.halts_require (hget _ rfl)).bind fun _ => .pure _
  | provider => exact .pure _

theorem halts_answersTo {types : List String} (hget : ∀ type ∈ types, (asker.get h type).Halts) :
    (answersTo asker h types).Halts := by
  induction types with
  | nil => exact .pure _
  | cons type rest ih =>
    refine (Attempt.Halts.observe (hget type List.mem_cons_self)).bind fun _ => ?_
    exact (ih fun t ht => hget t (List.mem_cons_of_mem type ht)).bind fun _ => .pure _

/-- Making an instance ends if every request that it makes does. -/
theorem Assembly.halts_make {construct : Construct} (hget : ∀ type ∈ a.wants construct, (asker.get h type).Halts) :
    (a.make asker h construct).Halts := by
  have harguments : (construct.arguments.mapM (Argument.give asker h a)).Halts := by
    refine .mapM fun argument hmem => Argument.halts_give fun type htype => hget type (List.mem_append_left _ ?_)
    exact List.mem_filterMap.mpr ⟨argument, hmem, htype⟩
  refine harguments.bind fun given => ?_
  refine (halts_answersTo fun type htype => hget type (List.mem_append_right _ htype)).bind fun answers => ?_
  exact .changeGet _

theorem Accessor.halts_deliver {make : Construct → Attempt Nat} {x : Accessor} (hmake : (make x.construct).Halts)
    (store : Nat) : (x.deliver make store).Halts := by
  rw [Accessor.deliver]
  rw [Accessor.construct] at hmake
  split
  next cell implementation construct hbody =>
    rw [hbody] at hmake
    refine .get_bind fun w => ?_
    split
    · exact .pure _
    · exact hmake.bind fun id => (Attempt.Halts.change _).bind fun _ => .pure id
  next implementation construct hbody =>
    rwa [hbody] at hmake

end

/-! ### Services that are left -/

/-- The services that a provider can deliver: its own, and those of the root provider under it. -/
def Keeper.sites (k : Keeper) : List Site :=
  match k.scope with
  | none => k.provider.accessors.map (Site.mk k)
  | some _ => k.provider.accessors.map (Site.mk k) ++ k.toRoot.provider.accessors.map (Site.mk k.toRoot)

section

variable {home : Nat → Option Keeper} {k : Keeper} {s t : Site} {type : String}

theorem Keeper.mem_map_mk : s ∈ k.provider.accessors.map (Site.mk k) ↔ s.Genuine ∧ s.keeper = k := by
  rw [List.mem_map]
  constructor
  · rintro ⟨x, hx, rfl⟩
    exact ⟨hx, rfl⟩
  · rintro ⟨hs, rfl⟩
    exact ⟨s.accessor, hs, rfl⟩

theorem Keeper.mem_sites : s ∈ k.sites ↔ s.Genuine ∧ (s.keeper = k ∨ s.keeper = k.toRoot) := by
  rw [sites]
  split
  next hroot => rw [mem_map_mk, toRoot_eq_self hroot, or_self]
  next => rw [List.mem_append, mem_map_mk, mem_map_mk, and_or_left]

theorem Keeper.length_sites (k : Keeper) : k.sites.length = k.handle.services := by
  obtain ⟨a, r, _ | n⟩ := k
  · rw [sites, List.length_map, Keeper.handle, Handle.services]
    rfl
  · rw [sites, List.length_append, List.length_map, List.length_map, Keeper.handle, Handle.services, Handle.services]
    rfl

theorem Keeper.Settled.mem_sites_of_serving? (hk : k.Settled home) (hs : k.serving? type = some s) : s ∈ k.sites :=
  Keeper.mem_sites.mpr ⟨(hk.of_serving? hs).1, (Keeper.serving?_eq_some hs).2.1⟩

/-- What a service of a provider needs is a service of the provider. -/
theorem Keeper.Settled.mem_sites_of_needs (hk : k.Settled home) (hs : s ∈ k.sites) (h : ReflTransGen Site.Needs s t) :
    t ∈ k.sites := by
  induction h with
  | refl => exact hs
  | @tail u t _ hneeds ih =>
    obtain ⟨type, -, hserving⟩ := hneeds
    obtain ⟨-, hkeeper, -⟩ := Keeper.serving?_eq_some hserving
    rcases (Keeper.mem_sites.mp ih).2 with hu | hu
    · rw [hu] at hserving
      exact hk.mem_sites_of_serving? hserving
    · -- The root provider passes no request on.
      rw [hu] at hserving hkeeper
      exact Keeper.mem_sites.mpr ⟨(hk.toRoot.of_serving? hserving).1, .inr (hkeeper.elim id id)⟩

/-- A delivery ends if the services that it can lead to are no more than the bound. -/
theorem Site.halts_deliver {depth : Nat} {left : List Site} (hs : s.keeper.Settled home)
    (hmem : ∀ t, ReflTransGen Site.Needs s t → t ∈ left) (hlength : left.length ≤ depth) : (s.deliver depth).Halts := by
  classical
  induction depth generalizing s left with
  | zero =>
    have hnil : left = [] := List.eq_nil_of_length_eq_zero (Nat.le_zero.mp hlength)
    exact absurd (hnil ▸ hmem s .refl) List.not_mem_nil
  | succ depth ih =>
    refine Accessor.halts_deliver (Assembly.halts_make fun type htype => ?_) _
    rw [get_ask_eq hs.handle.1, Keeper.serving?_handle]
    cases ht : s.keeper.serving? type with
    | none => exact .pure _
    | some t =>
      have hneeds : s.Needs t := ⟨type, htype, ht⟩
      -- The service itself is not among those that are needed for it.
      have hmem' : ∀ u, ReflTransGen Site.Needs t u → u ∈ left.erase s := by
        intro u hu
        refine (List.mem_erase_of_ne ?_).mpr (hmem u (.head hneeds hu))
        rintro rfl
        exact Site.not_transGen_needs_self hs.orderly.acyclic (.head' hneeds hu)
      have hlength' : (left.erase s).length ≤ depth := by
        rw [List.length_erase_of_mem (hmem s .refl)]
        omega
      exact (ih (hneeds.settled hs).2 hmem' hlength').map

end

/-! ### Requests to handles -/

section

variable {home : Nat → Option Keeper} {h : Handle}

theorem services_le_servicesOf {hs : List Handle} (hh : h ∈ hs) : h.services ≤ servicesOf hs := by
  induction hs with
  | nil => exact nomatch hh
  | cons g rest ih =>
    rw [servicesOf]
    rcases List.mem_cons.mp hh with rfl | hh
    · exact Nat.le_add_right _ _
    · exact Nat.le_add_left_of_le (ih hh)

/-- A handle knows the services of every provider that it asks. -/
theorem Handle.Plain.services_le (hh : h.Plain) {k : Keeper} (hk : k ∈ h.keepers) : k.handle.services ≤ h.services := by
  induction hh with
  | keeper l =>
    rw [Keeper.keepers_handle, List.mem_singleton] at hk
    rw [hk]
  | scope id owner _ ih =>
    rw [Handle.services]
    exact ih hk
  | @composed parts _ ih =>
    rw [Handle.keepers, keepersOf_eq] at hk
    obtain ⟨p, hp, hk⟩ := List.mem_flatMap.mp hk
    rw [Handle.services]
    exact Nat.le_trans (ih p hp hk) (services_le_servicesOf hp)

/-- A request for an instance ends. -/
theorem Handle.Settled.halts_get (hh : h.Settled home) (type : String) : (h.get type).Halts := by
  rw [Handle.get_eq, get_ask_eq hh.1]
  cases hs : h.serving? type with
  | none => exact .pure _
  | some s =>
    obtain ⟨k, hk, hserving⟩ := List.exists_of_findSome?_eq_some hs
    have hsettled := hh.2 k hk
    have hmem (t : Site) (ht : ReflTransGen Site.Needs s t) : t ∈ k.sites :=
      hsettled.mem_sites_of_needs (hsettled.mem_sites_of_serving? hserving) ht
    have hlength : k.sites.length ≤ h.services := by
      rw [Keeper.length_sites]
      exact hh.1.services_le hk
    exact (Site.halts_deliver (hh.of_serving? hs).2 hmem hlength).map

/-- A request for an instance that must be there ends. -/
theorem Handle.Settled.halts_require (hh : h.Settled home) (type : String) : (h.require type).Halts := by
  have hget := hh.halts_get type
  rw [Handle.get_eq] at hget
  rw [Handle.require_eq]
  exact Asker.halts_require hget

end

/-! ### Steps -/

namespace Stage

variable {s : Stage} {t : Step}

theorem request_ne_endless {attempt : Attempt (Option Nat)} (h : attempt.Halts) :
    (s.request attempt).2 ≠ .endless := by
  rw [request]
  split
  next r w' hrun =>
    rw [outcomeOf.eq_def]
    split <;> simp
  next hrun => exact absurd hrun (h s.world)

theorem onHandle_ne_endless {name : String} {f : Handle → Stage × Outcome}
    (hf : ∀ h, s.handle? name = some h → (f h).2 ≠ .endless) : (s.onHandle name f).2 ≠ .endless := by
  rw [onHandle]
  split
  next h hh => exact hf h hh
  next => simp

/-- A step on a valid stage ends. -/
theorem Valid.perform_ne_endless {c : Census} {held : List Receipt} (hs : s.Valid c held) (t : Step) :
    (s.perform t).2 ≠ .endless := by
  have hsettled {name : String} {h : Handle} (hh : s.handle? name = some h) : h.Settled c.home :=
    (hs.regular _ (handle?_eq_some hh)).settled
  cases t with
  | root | foreign => simp [Stage.perform]
  | clone | innerScope | inspect => exact onHandle_ne_endless fun h _ => by cases h <;> simp
  | finish source =>
    refine onHandle_ne_endless fun h _ => ?_
    cases h with
    | scope id owner inner =>
      dsimp only
      split <;> simp
    | _ => simp
  | compose sources name =>
    rw [Stage.perform]
    split <;> simp
  | get source type => exact onHandle_ne_endless fun h hh => request_ne_endless ((hsettled hh).halts_get type)
  | require source type =>
    exact onHandle_ne_endless fun h hh => request_ne_endless ((hsettled hh).halts_require type).map
  | _ => exact onHandle_ne_endless fun _ _ => by simp

/-- Every step of every run ends. -/
theorem perform_run_ne_endless {admitted : Assembly → Prop} (hadmitted : ∀ a, admitted a → a.Orderly)
    {before : List Step} (hbefore : ∀ u ∈ before, u.Operates admitted) (t : Step) :
    ((({} : Stage).run before).perform t).2 ≠ .endless := by
  obtain ⟨c, -, hs⟩ := valid_run hadmitted hbefore
  exact hs.perform_ne_endless t

end Stage

end ServiceContainer
