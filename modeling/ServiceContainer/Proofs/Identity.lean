import ServiceContainer.Proofs.Run

/-!
# Which deliveries are the same instance

Over a whole run, two deliveries are the same instance when they are of one singleton and went to one root provider, or
of one scoped service and went to one scoped provider, and never otherwise. A delivery is an answer to a request, a
parameter that a service was made from, or an answer to the code of a service.

The code of services is assumed to ask for the same types on every making, whatever it is answered
(`Assembly.requests`).

## Main definitions

* `Handle.registration?` — the registration that a request is for, and the provider that it belongs to
* `allDeliveries` — the deliveries of a run

## Main statements

* `World.Sound.id_eq_iff` — deliveries are the same instance if it is kept and they are from one place
* `Handle.Regular.keepers_createScope` — a scope on a scope asks the same providers
* `allDeliveries_pairwise` — the identity of instances over runs
-/

namespace ServiceContainer

/-! ### Registrations behind requests -/

/-- The registration that answers requests for a type to a provider of a kind, with the kind that it belongs to. -/
def Assembly.registered? (a : Assembly) (rs : List Registration) (kind : ProviderKind) (type : String) :
    Option (ProviderKind × Registration) :=
  match (registrationsOf rs kind).find? fun r => a.typeName r.key == type with
  | some r => some (kind, r)
  | none =>
    match kind with
    | .root => none
    | .scoped => ((rootRegistrations rs).find? fun r => a.typeName r.key == type).map (.root, ·)

/-- The registration that answers requests for a type to a provider, with the provider that it belongs to. -/
def Keeper.registration? (reg : Assembly → List Registration) (k : Keeper) (type : String) :
    Option (Keeper × Registration) :=
  (k.assembly.registered? (reg k.assembly) k.kind type).map fun x => (k.ofKind x.1, x.2)

/-- The registration that answers requests for a type to a handle, with the provider that it belongs to: the first
answer of the providers that the handle asks. -/
def Handle.registration? (reg : Assembly → List Registration) (h : Handle) (type : String) :
    Option (Keeper × Registration) :=
  h.keepers.findSome? (·.registration? reg type)

/-- The service is the registered one. -/
structure Site.Registers (reg : Assembly → List Registration) (s : Site) (r : Registration) : Prop where
  mem : r ∈ registrationsOf (reg s.keeper.assembly) s.keeper.kind
  key : s.accessor.key = r.key
  place?_eq_none : s.place? = none ↔ r.lifetime = .transient

section

variable {reg : Assembly → List Registration} {a : Assembly} {rs : List Registration} {type : String}

/-- An accessor for a registered service. -/
structure Accessor.Registers (x : Accessor) (r : Registration) : Prop where
  key : x.key = r.key
  cell?_eq_none : x.cell? = none ↔ r.lifetime = .transient

theorem Identified.DeliveredBy.registers {i : Identified} {x : Accessor} (h : i.DeliveredBy x) :
    x.Registers i.registration where
  key := h.key
  cell?_eq_none := by
    rw [h.cell?_eq, Identified.cell?]
    split <;> simp_all

theorem Assembly.LaidOut.accessorFor?_rel (h : a.LaidOut rs) (kind : ProviderKind) (type : String) :
    Option.Rel (fun r x => r ∈ registrationsOf rs kind ∧ Accessor.Registers x r)
      ((registrationsOf rs kind).find? fun r => a.typeName r.key == type)
      ((a.provider kind).accessorFor? a type) := by
  obtain ⟨xs, hxs, hserves⟩ := h.serves kind
  have hrel := hserves.accessorFor?_rel a type
  rw [← hxs, List.find?_map]
  change Option.Rel _ (Option.map _ (xs.find? fun i => a.typeName i.registration.key == type)) _
  generalize hi : (xs.find? fun i => a.typeName i.registration.key == type) = i at hrel ⊢
  generalize (a.provider kind).accessorFor? a type = x at hrel ⊢
  cases hrel with
  | none => exact .none
  | some hd => exact .some ⟨List.mem_map_of_mem (List.mem_of_find?_eq_some hi), hd.registers⟩

/-- What is registered is what answers. -/
theorem Assembly.LaidOut.answering?_rel (h : a.LaidOut rs) (kind : ProviderKind) (type : String) :
    Option.Rel (fun p t => p.1 = t.1 ∧ p.2 ∈ registrationsOf rs t.1 ∧ Accessor.Registers t.2 p.2)
      (a.registered? rs kind type) (a.answering? kind type) := by
  unfold Assembly.registered? Assembly.answering?
  have hown := h.accessorFor?_rel kind type
  generalize (registrationsOf rs kind).find? _ = r at hown ⊢
  generalize (a.provider kind).accessorFor? a type = x at hown ⊢
  cases hown with
  | some hx => exact .some ⟨rfl, hx⟩
  | none =>
    cases kind with
    | root => exact .none
    | _ =>
      have hroot := h.accessorFor?_rel .root type
      change Option.Rel _ (Option.map _ ((registrationsOf rs .root).find? _))
        (Option.map _ ((a.provider .root).accessorFor? a type))
      generalize (registrationsOf rs .root).find? _ = r at hroot ⊢
      generalize (a.provider .root).accessorFor? a type = x at hroot ⊢
      cases hroot with
      | none => exact .none
      | some hx => exact .some ⟨rfl, hx⟩

theorem Keeper.serving?_rel {k : Keeper} (h : k.assembly.LaidOut (reg k.assembly)) (type : String) :
    Option.Rel (fun p s => p.1 = s.keeper ∧ Site.Registers reg s p.2) (k.registration? reg type) (k.serving? type) := by
  have hrel := h.answering?_rel k.kind type
  rw [Keeper.registration?, Keeper.serving?]
  have hkind (t) (ht : k.assembly.answering? k.kind type = some t) := Keeper.ofKind_kind_of_answering? ht
  generalize k.assembly.registered? (reg k.assembly) k.kind type = p at hrel ⊢
  generalize k.assembly.answering? k.kind type = t at hrel hkind ⊢
  cases hrel with
  | none => exact .none
  | @some p t hpt =>
    obtain ⟨hfst, hmem, hx⟩ := hpt
    refine .some ⟨congrArg k.ofKind hfst, ?_, hx.key, ?_⟩
    · rw [hkind t rfl, Keeper.ofKind_assembly]
      exact hmem
    · rw [Site.place?, Option.map_eq_none_iff]
      exact hx.cell?_eq_none

/-- The registration of a request belongs to the provider that delivers, and is of the service that is delivered. -/
theorem Handle.registration?_of_serving? {h : Handle} {s : Site}
    (hlaid : ∀ k ∈ h.keepers, k.assembly.LaidOut (reg k.assembly)) (hs : h.serving? type = some s) :
    ∃ r, h.registration? reg type = some (s.keeper, r) ∧ s.Registers reg r := by
  rw [Handle.registration?]
  rw [Handle.serving?] at hs
  generalize h.keepers = ks at hlaid hs
  induction ks with
  | nil => simp at hs
  | cons k rest ih =>
    have hrel := Keeper.serving?_rel (hlaid k List.mem_cons_self) type
    rw [List.findSome?_cons] at hs ⊢
    generalize k.registration? reg type = p at hrel ⊢
    generalize k.serving? type = t at hrel hs
    cases hrel with
    | none => exact ih (fun l hl => hlaid l (List.mem_cons_of_mem k hl)) hs
    | some hp =>
      obtain rfl := Option.some.inj hs
      exact ⟨_, congrArg some (Prod.ext hp.1 rfl), hp.2⟩

theorem mem_registrationsOf {kind : ProviderKind} {r : Registration} (hr : r ∈ registrationsOf rs kind) :
    r.lifetime = .scoped ↔ kind = .scoped := by
  cases kind with
  | root =>
    rw [registrationsOf, rootRegistrations_eq] at hr
    have hlifetime := of_decide_eq_true (List.mem_filter.mp hr).2
    rcases hlifetime with hl | hl <;> simp [hl]
  | _ =>
    rw [registrationsOf, scopedRegistrations_eq] at hr
    simpa using (List.mem_filter.mp hr).2

/-- Scoped services belong to scoped providers. -/
theorem Site.Registers.scoped_iff {s : Site} {r : Registration} (h : s.Registers reg r) :
    r.lifetime = .scoped ↔ s.keeper.scope.isSome = true := by
  rw [mem_registrationsOf h.mem]
  obtain ⟨⟨a, n, _ | m⟩, x⟩ := s <;> simp [Keeper.kind]

end

/-! ### Instances in a sound world -/

section

variable {reg : Assembly → List Registration} {home : Nat → Option Keeper} {w : World} {held : List Receipt}
variable {x y : Receipt} {s t : Site} {r q : Registration}

/-- Deliveries from one cell are the same instance. -/
theorem World.Sound.id_eq_of_place? (h : w.Sound home held) (hx : x ∈ held) (hy : y ∈ held) {p : Nat × String}
    (hxp : x.place? = some p) (hyp : y.place? = some p) : x.id = y.id := by
  have hxc := h.kept x hx p.1 p.2 hxp
  have hyc := h.kept y hy p.1 p.2 hyp
  exact Option.some.inj (hxc.symm.trans hyc)

/-- An instance that is kept comes from one cell. -/
theorem World.Sound.place?_of_id_eq (h : w.Sound home held) (hx : x ∈ held) (hy : y ∈ held)
    (hapart : x.place? = none → y.place? = none → x.id ≠ y.id) (hid : x.id = y.id) :
    ∃ p, x.place? = some p ∧ y.place? = some p := by
  cases hxp : x.place? with
  | none =>
    cases hyp : y.place? with
    | none => exact absurd hid (hapart hxp hyp)
    | some q => exact absurd (hid ▸ h.kept y hy q.1 q.2 hyp) (h.loose x hx hxp q.1 q.2)
  | some p =>
    cases hyp : y.place? with
    | none => exact absurd (hid ▸ h.kept x hx p.1 p.2 hxp) (h.loose y hy hyp p.1 p.2)
    | some q =>
      obtain ⟨hfst, hsnd⟩ := h.injective _ _ _ _ _ (h.kept x hx p.1 p.2 hxp) (hid ▸ h.kept y hy q.1 q.2 hyp)
      exact ⟨p, rfl, congrArg some (Prod.ext hfst hsnd).symm⟩

/-- The delivery is of a registered service at a place. -/
structure Receipt.IsFrom (reg : Assembly → List Registration) (home : Nat → Option Keeper) (x : Receipt) (s : Site)
    (r : Registration) : Prop where
  site : x.site? = some s
  registration : x.handle.registration? reg x.type = some (s.keeper, r)
  registers : s.Registers reg r
  genuine : s.Genuine
  settled : s.keeper.Settled home

theorem World.Sound.exists_isFrom (h : w.Sound home held)
    (hlaid : ∀ n k, home n = some k → k.assembly.LaidOut (reg k.assembly)) (hx : x ∈ held) :
    ∃ s r, x.IsFrom reg home s r := by
  obtain ⟨hsettled, s, hs⟩ := h.served x hx
  obtain ⟨r, hr, hregisters⟩ :=
    Handle.registration?_of_serving? (fun k hk => hlaid _ _ (hsettled.2 k hk).own) hs
  obtain ⟨hgenuine, hkeeper⟩ := hsettled.of_serving? hs
  exact ⟨s, r, hs, hr, hregisters, hgenuine, hkeeper⟩

/-- Two deliveries are the same instance exactly when it is kept and they are from one place. -/
theorem World.Sound.id_eq_iff (h : w.Sound home held) (hx : x ∈ held) (hy : y ∈ held)
    (hapart : x.place? = none → y.place? = none → x.id ≠ y.id) (hxs : x.IsFrom reg home s r)
    (hyt : y.IsFrom reg home t q) : x.id = y.id ↔ r.lifetime ≠ .transient ∧ s = t := by
  have hxplace : x.place? = s.place? := by rw [Receipt.place?, hxs.site, Option.bind_some]
  have hyplace : y.place? = t.place? := by rw [Receipt.place?, hyt.site, Option.bind_some]
  constructor
  · intro hid
    obtain ⟨p, hxp, hyp⟩ := h.place?_of_id_eq hx hy hapart hid
    rw [hxplace] at hxp
    rw [hyplace] at hyp
    -- The cell tells the service, and a transient service has none.
    refine ⟨fun htransient => ?_, Site.eq_of_place? hxs.genuine hxs.settled hyt.genuine hyt.settled hxp hyp⟩
    rw [hxs.registers.place?_eq_none.mpr htransient] at hxp
    cases hxp
  · rintro ⟨hkept, rfl⟩
    obtain ⟨p, hp⟩ := Option.ne_none_iff_exists'.mp (mt hxs.registers.place?_eq_none.mp hkept)
    exact h.id_eq_of_place? hx hy (hxplace.trans hp) (hyplace.trans hp)

namespace Receipt.IsFrom

/-- Deliveries from one provider for one type are from one place. -/
theorem site_eq (hxs : x.IsFrom reg home s r) (hyt : y.IsFrom reg home t q) (hstore : s.keeper.store = t.keeper.store)
    (htype : x.type = y.type) : s = t := by
  have hkeeper := hxs.settled.eq_of_store hyt.settled hstore
  have hx := Handle.accessorFor?_of_serving? hxs.site
  have hy := Handle.accessorFor?_of_serving? hyt.site
  rw [hkeeper, htype] at hx
  obtain ⟨tk, tx⟩ := t
  cases hkeeper
  cases Option.some.inj (hx.symm.trans hy)
  rfl

/-- The type of a delivery is the one of the service. -/
theorem typeName_eq (hxs : x.IsFrom reg home s r) : s.keeper.assembly.typeName s.accessor.key = x.type := by
  obtain ⟨rs, hrs⟩ := hxs.settled.orderly.laidOut
  exact (hrs.mem_of_accessorFor? _ (Handle.accessorFor?_of_serving? hxs.site)).2

/-- Which deliveries of kept instances are from one place. -/
theorem kept_iff (hxs : x.IsFrom reg home s r) (hyt : y.IsFrom reg home t q) :
    r.lifetime ≠ .transient ∧ s = t ↔ x.type = y.type ∧
      (r.lifetime = .singleton ∧ q.lifetime = .singleton ∧ s.keeper.root = t.keeper.root ∨
        r.lifetime = .scoped ∧ q.lifetime = .scoped ∧ s.keeper.scope = t.keeper.scope) := by
  constructor
  · rintro ⟨hkept, rfl⟩
    have hkept' : q.lifetime ≠ .transient := by
      rwa [ne_eq, ← hyt.registers.place?_eq_none, hxs.registers.place?_eq_none]
    have hscoped : r.lifetime = .scoped ↔ q.lifetime = .scoped := by
      rw [hxs.registers.scoped_iff, hyt.registers.scoped_iff]
    refine ⟨hxs.typeName_eq.symm.trans hyt.typeName_eq, ?_⟩
    cases hr : r.lifetime <;> cases hq : q.lifetime <;> simp_all
  -- A singleton is kept in the store of the root provider, and a scoped service in that of the scoped one.
  · rintro ⟨htype, ⟨hr, hq, hroot⟩ | ⟨hr, hq, hscope⟩⟩
    · have hs : s.keeper.scope = none := by
        simpa [hr] using mt hxs.registers.scoped_iff.mpr
      have ht : t.keeper.scope = none := by
        simpa [hq] using mt hyt.registers.scoped_iff.mpr
      refine ⟨by simp [hr], hxs.site_eq hyt ?_ htype⟩
      rw [Keeper.store, Keeper.store, hs, ht, hroot]
    · obtain ⟨n, hn⟩ := Option.isSome_iff_exists.mp (hxs.registers.scoped_iff.mp hr)
      refine ⟨by simp [hr], hxs.site_eq hyt ?_ htype⟩
      rw [Keeper.store, Keeper.store, ← hscope, hn, Option.getD_some, Option.getD_some]

end Receipt.IsFrom

end

/-! ### Scopes and the providers that they ask -/

section

variable {c : Census} {h : Handle}

/-- A scope on a root provider asks a scoped provider with a store that is new. -/
theorem Keeper.keepers_createScope {k : Keeper} (hk : k.scope = none) (w : World) :
    (k.handle.createScope w).1.keepers = [k.inScope w.nextStore] := by
  obtain ⟨a, s, _ | n⟩ := k
  · rw [Keeper.handle, Handle.createScope, Handle.keepers, Handle.keepers]
    rfl
  · exact absurd hk (Option.some_ne_none n)

theorem keepersOf_createScopes {parts : List Handle}
    (ih : ∀ h ∈ parts, ∀ w : World, (h.createScope w).1.keepers = h.keepers) (w : World) :
    keepersOf (createScopes parts w).1 = keepersOf parts := by
  induction parts generalizing w with
  | nil => rw [createScopes]
  | cons h rest ihrest =>
    rw [createScopes, keepersOf, keepersOf, ih h List.mem_cons_self,
      ihrest fun g hg => ih g (List.mem_cons_of_mem h hg)]

/-- A scope on a scope asks the same providers. -/
theorem Handle.Regular.keepers_createScope (hh : h.Regular c) (hscope : h.IsScope) (w : World) :
    (h.createScope w).1.keepers = h.keepers := by
  induction hh generalizing w with
  | @root k _ _ => obtain ⟨a, s, _ | n⟩ := k <;> exact hscope.elim
  | @scope k id owner _ inScope _ =>
    obtain ⟨a, s, _ | n⟩ := k
    · exact nomatch inScope
    · rfl
  | group _ scopes _ ih =>
    rw [Handle.createScope, Handle.createScope, Handle.keepers, Handle.keepers, Handle.keepers, Handle.keepers]
    exact keepersOf_createScopes (fun p hp w => ih p hp (scopes p hp) w) w
  | composed => exact hscope.elim

end

/-! ### Runs -/

/-- The deliveries of a run from nothing: the answers to requests, and what the services that were made were given. -/
def allDeliveries (steps : List Step) : List Receipt :=
  ({} : Stage).deliveries steps ++ (({} : Stage).run steps).world.receipts

/-- Two deliveries of a run are the same instance exactly when they are of the same type, and this is registered as a
singleton and both went to one root provider, or it is registered as scoped and both went to one scoped provider. -/
theorem allDeliveries_pairwise {reg : Assembly → List Registration} {steps : List Step}
    (hsteps : ∀ t ∈ steps, t.Operates fun a => a.LaidOut (reg a) ∧ a.Acyclic) :
    (allDeliveries steps).Pairwise fun x y => ∃ k r l q,
      x.handle.registration? reg x.type = some (k, r) ∧ y.handle.registration? reg y.type = some (l, q) ∧
      (x.id = y.id ↔ x.type = y.type ∧
        (r.lifetime = .singleton ∧ q.lifetime = .singleton ∧ k.root = l.root ∨
          r.lifetime = .scoped ∧ q.lifetime = .scoped ∧ k.scope = l.scope)) ∧
      (r.lifetime = .transient → x.id ≠ y.id) := by
  obtain ⟨c, hadmits, hvalid⟩ := Stage.valid_run (fun a ha => ⟨⟨_, ha.1⟩, ha.2⟩) hsteps
  have hsound := hvalid.sound
  refine hsound.apart.imp_of_mem fun {x y} hx hy hapart => ?_
  obtain ⟨s, r, hxs⟩ := hsound.exists_isFrom (fun n k hk => (hadmits n k hk).1) hx
  obtain ⟨t, q, hyt⟩ := hsound.exists_isFrom (fun n k hk => (hadmits n k hk).1) hy
  have hid := hsound.id_eq_iff hx hy hapart hxs hyt
  refine ⟨s.keeper, r, t.keeper, q, hxs.registration, hyt.registration, hid.trans (hxs.kept_iff hyt), ?_⟩
  intro htransient heq
  exact (hid.mp heq).1 htransient

theorem allDeliveries_pairwise_visits :
    (allDeliveries Sample.visits).Pairwise fun x y => ∃ k r l q,
      x.handle.registration? (fun _ => Sample.trio) x.type = some (k, r) ∧
      y.handle.registration? (fun _ => Sample.trio) y.type = some (l, q) ∧
      (x.id = y.id ↔ x.type = y.type ∧
        (r.lifetime = .singleton ∧ q.lifetime = .singleton ∧ k.root = l.root ∨
          r.lifetime = .scoped ∧ q.lifetime = .scoped ∧ k.scope = l.scope)) ∧
      (r.lifetime = .transient → x.id ≠ y.id) :=
  allDeliveries_pairwise Sample.visits_operate

end ServiceContainer
