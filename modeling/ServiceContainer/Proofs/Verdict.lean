import ServiceContainer.Proofs.Termination
import ServiceContainer.Proofs.Wiring

/-!
# What lookups answer

The answer to a request is decided by the registrations and the handle, whatever was asked before: no instance when no
lookup that the handle sees is for the type, an instance when all that the service needs is registered, and otherwise a
refusal for the first type that is not. A service that something is missing for is never in a cell, so a refusal leaves
nothing behind that would change the answer.

What the code of a service asks for changes no answer, since refusals reach the code and not the request that it is made
for. The code is assumed to ask for the same types on every making, whatever it is answered (`Assembly.requests`).

## Main definitions

* `Keeper.lookups`, `Handle.Sees` — the lookups that a provider sees
* `Handle.Verdict`, `Stage.Answers` — what comes of a request, by the registrations

## Main statements

* `Keeper.registration?_owner` — which provider a registration belongs to
* `Stage.Valid.perform_get_verdict` — a request comes to what the registrations say
* `World.Wired.cell?_eq_none` — a service that something is missing for has an empty cell
* `Stage.answers_of_run` — the answers to requests in any state of any run
-/

namespace ServiceContainer

/-! ### Lookups -/

/-- The lookups that a provider sees: its own, and those of the root provider under it. -/
def Keeper.lookups (k : Keeper) : List Lookup :=
  match k.scope with
  | none => k.provider.lookups
  | some _ => k.provider.lookups ++ k.toRoot.provider.lookups

/-- The handle sees a lookup for the type. -/
def Handle.Sees (h : Handle) (type : String) : Prop :=
  ∃ k ∈ h.keepers, ∃ l ∈ k.lookups, k.assembly.typeName l.key = type

section

variable {reg : Assembly → List Registration} {a : Assembly} {rs : List Registration} {k owner : Keeper} {h : Handle}
variable {r : Registration} {type : String}

theorem Assembly.LaidOut.accessorFor?_eq_none (h : a.LaidOut rs) (kind : ProviderKind) :
    (a.provider kind).accessorFor? a type = none ↔ ∀ l ∈ (a.provider kind).lookups, a.typeName l.key ≠ type := by
  obtain ⟨xs, -, hserves⟩ := h.serves kind
  rw [hserves.accessorFor?_eq, hserves.lookups, List.find?_eq_none]
  simp

theorem Assembly.answering?_root_eq_none :
    a.answering? .root type = none ↔ (a.provider .root).accessorFor? a type = none := by
  unfold Assembly.answering?
  split
  next hx => simp [hx]
  next hx => simp [hx]

theorem Assembly.answering?_scoped_eq_none :
    a.answering? .scoped type = none ↔
      (a.provider .scoped).accessorFor? a type = none ∧ (a.provider .root).accessorFor? a type = none := by
  unfold Assembly.answering?
  split
  next hx => simp [hx]
  next hx => exact Option.map_eq_none_iff.trans (and_iff_right hx).symm

/-- A provider answers exactly the types that it sees a lookup for. -/
theorem Keeper.serving?_eq_none (hlaid : k.assembly.LaidOut (reg k.assembly)) :
    k.serving? type = none ↔ ∀ l ∈ k.lookups, k.assembly.typeName l.key ≠ type := by
  rw [Keeper.serving?, Option.map_eq_none_iff]
  -- A root provider has its own lookups only; a scoped one passes on what it does not have.
  obtain ⟨a, n, _ | m⟩ := k
  · exact Assembly.answering?_root_eq_none.trans (hlaid.accessorFor?_eq_none .root)
  · refine Assembly.answering?_scoped_eq_none.trans ?_
    rw [hlaid.accessorFor?_eq_none, hlaid.accessorFor?_eq_none]
    exact List.forall_mem_append.symm

theorem Handle.serving?_eq_none (hlaid : ∀ k ∈ h.keepers, k.assembly.LaidOut (reg k.assembly)) :
    h.serving? type = none ↔ ¬ h.Sees type := by
  rw [Handle.serving?, List.findSome?_eq_none_iff, Handle.Sees]
  push Not
  exact forall₂_congr fun k hk => Keeper.serving?_eq_none (hlaid k hk)

/-! ### Owners -/

theorem Assembly.mem_of_registered? {kind owner : ProviderKind} (h : a.registered? rs kind type = some (owner, r)) :
    r ∈ registrationsOf rs owner := by
  unfold Assembly.registered? at h
  split at h
  next hr =>
    obtain ⟨rfl, rfl⟩ := Prod.mk.inj (Option.some.inj h)
    exact List.mem_of_find?_eq_some hr
  next =>
    split at h
    · exact nomatch h
    · obtain ⟨_, hr, heq⟩ := Option.map_eq_some_iff.mp h
      obtain ⟨rfl, rfl⟩ := Prod.mk.inj heq
      exact List.mem_of_find?_eq_some hr

/-- Scoped services belong to the provider itself, all others to the root provider under it. -/
theorem Keeper.registration?_owner (h : k.registration? reg type = some (owner, r)) :
    owner = if r.lifetime = .scoped then k else k.toRoot := by
  obtain ⟨⟨kind, _⟩, hregistered, heq⟩ := Option.map_eq_some_iff.mp h
  obtain ⟨rfl, rfl⟩ := Prod.mk.inj heq
  have hkind := mem_registrationsOf (Assembly.mem_of_registered? hregistered)
  cases kind with
  | root => rw [if_neg (by simp [hkind]), Keeper.ofKind]
  | _ => rw [if_pos (hkind.mpr rfl), Keeper.ofKind]

theorem Handle.registration?_owner (hr : h.registration? reg type = some (owner, r)) :
    ∃ k ∈ h.keepers, owner = if r.lifetime = .scoped then k else k.toRoot := by
  obtain ⟨k, hk, hregistered⟩ := List.exists_of_findSome?_eq_some hr
  exact ⟨k, hk, Keeper.registration?_owner hregistered⟩

/-- A handle has a registration for exactly the types that it sees a lookup for. -/
theorem Handle.registration?_eq_none (hlaid : ∀ k ∈ h.keepers, k.assembly.LaidOut (reg k.assembly)) :
    h.registration? reg type = none ↔ ¬ h.Sees type := by
  rw [← Handle.serving?_eq_none hlaid, Handle.registration?, Handle.serving?, List.findSome?_eq_none_iff,
    List.findSome?_eq_none_iff]
  exact forall₂_congr fun k hk => Keeper.registration?_eq_none (hlaid k hk)

end

/-! ### Verdicts -/

/-- What comes of a request for a type, by the registrations. -/
inductive Handle.Verdict (reg : Assembly → List Registration) (h : Handle) (type : String) : Outcome → Prop where
  | absent (unseen : ¬ h.Sees type) : Verdict reg h type .absent
  | found {owner : Keeper} {r : Registration} (id : Nat) (registered : h.registration? reg type = some (owner, r))
    (needs : owner.Supplies reg r.construction.keys) : Verdict reg h type (.found id)
  | refused {owner : Keeper} {r : Registration} {missing : String}
    (registered : h.registration? reg type = some (owner, r))
    (needs : owner.FirstMissing reg missing r.construction.keys) :
    Verdict reg h type (.refused (.notRegistered missing))

namespace Handle.Verdict

variable {reg : Assembly → List Registration} {h : Handle} {type : String} {o o' : Outcome}

section

variable (hlaid : ∀ k ∈ h.keepers, k.assembly.LaidOut (reg k.assembly)) (ho : h.Verdict reg type o)

include ho in
theorem cases_outcome : o = .absent ∨ (∃ id, o = .found id) ∨ ∃ missing, o = .refused (.notRegistered missing) := by
  cases ho with
  | absent => exact .inl rfl
  | found id => exact .inr (.inl ⟨id, rfl⟩)
  | refused => exact .inr (.inr ⟨_, rfl⟩)

include hlaid ho in
theorem absent_iff : o = .absent ↔ ¬ h.Sees type := by
  rw [← Handle.registration?_eq_none hlaid]
  cases ho with
  | absent unseen => exact iff_of_true rfl ((Handle.registration?_eq_none hlaid).mpr unseen)
  | found id registered => simp [registered]
  | refused registered => simp [registered]

include hlaid ho in
theorem found_iff : (∃ id, o = .found id) ↔
    ∃ owner r, h.registration? reg type = some (owner, r) ∧ owner.Supplies reg r.construction.keys := by
  cases ho with
  | absent unseen =>
    have hnone := (Handle.registration?_eq_none hlaid).mpr unseen
    simp [hnone]
  | found id registered needs => exact iff_of_true ⟨id, rfl⟩ ⟨_, _, registered, needs⟩
  | refused registered needs =>
    refine iff_of_false (fun ⟨_, he⟩ => nomatch he) fun ⟨_, _, hregistered, hneeds⟩ => ?_
    obtain ⟨rfl, rfl⟩ := Prod.mk.inj (Option.some.inj (registered.symm.trans hregistered))
    exact hneeds.not_firstMissing needs

include hlaid ho in
theorem refused_iff (e : DependencyError) : o = .refused e ↔
    ∃ owner r missing, h.registration? reg type = some (owner, r) ∧
      owner.FirstMissing reg missing r.construction.keys ∧ e = .notRegistered missing := by
  cases ho with
  | absent unseen =>
    have hnone := (Handle.registration?_eq_none hlaid).mpr unseen
    simp [hnone]
  | found id registered needs =>
    refine iff_of_false nofun fun ⟨_, _, _, hregistered, hneeds, _⟩ => ?_
    obtain ⟨rfl, rfl⟩ := Prod.mk.inj (Option.some.inj (registered.symm.trans hregistered))
    exact needs.not_firstMissing hneeds
  | refused registered needs =>
    constructor
    · intro he
      exact ⟨_, _, _, registered, needs, (Outcome.refused.inj he).symm⟩
    · rintro ⟨_, _, _, hregistered, hneeds, rfl⟩
      obtain ⟨rfl, rfl⟩ := Prod.mk.inj (Option.some.inj (registered.symm.trans hregistered))
      rw [needs.unique hneeds]

end

end Handle.Verdict

/-! ### Requests -/

section

variable {reg : Assembly → List Registration} {home : Nat → Option Keeper} {w : World} {s : Site} {r : Registration}
variable {h : Handle} {k : Keeper} {type missing : String}

/-- A registered service is one of the provider. -/
theorem Keeper.exists_registers (hlaid : k.assembly.LaidOut (reg k.assembly))
    (hr : r ∈ registrationsOf (reg k.assembly) k.kind) :
    ∃ s : Site, s.keeper = k ∧ s.Genuine ∧ s.Registers reg r := by
  obtain ⟨xs, hxs, hserves⟩ := hlaid.serves k.kind
  rw [← hxs] at hr
  obtain ⟨i, hi, rfl⟩ := List.mem_map.mp hr
  obtain ⟨x, hx, hdelivers⟩ := exists_rel_of_mem_right hserves.delivers.flip hi
  refine ⟨⟨k, x⟩, rfl, hx, hxs ▸ hr, hdelivers.registers.key, ?_⟩
  rw [Site.place?, Option.map_eq_none_iff]
  exact hdelivers.registers.cell?_eq_none

section

variable (hlaid : ∀ n k, home n = some k → k.assembly.LaidOut (reg k.assembly))

include hlaid

/-- How a request ends is what the registrations say. -/
theorem Handle.Settled.verdict (hh : h.Settled home) (hw : w.Wired home) {r : Except DependencyError (Option Nat)}
    (hends : h.EndsIn reg type w r) : h.Verdict reg type (Stage.outcomeOf r) := by
  have hlaidh : ∀ k ∈ h.keepers, k.assembly.LaidOut (reg k.assembly) := fun k hk => hlaid _ _ (hh.2 k hk).own
  have hregistered {s : Site} (hs : h.serving? type = some s) :
      ∃ r, h.registration? reg type = some (s.keeper, r) ∧ r.construction.keys = s.keys := by
    obtain ⟨r, hr, hregisters⟩ := Handle.registration?_of_serving? hlaidh hs
    obtain ⟨hgenuine, hsettled⟩ := hh.of_serving? hs
    exact ⟨r, hr, hregisters.keys_eq hgenuine (hlaid _ _ hsettled.own)⟩
  -- The service that answers is the registered one, so what it needs is what its registration names.
  rcases r with e | _ | id
  · obtain ⟨s, hs, missing, hmissing, rfl⟩ := hends
    obtain ⟨r, hr, hkeys⟩ := hregistered hs
    exact .refused hr (hkeys ▸ hmissing)
  · exact .absent ((Handle.serving?_eq_none hlaidh).mp hends)
  · obtain ⟨s, hs, hmade⟩ := hends
    obtain ⟨r, hr, hkeys⟩ := hregistered hs
    exact .found id hr (hkeys ▸ hw.supplies hlaid (hh.of_serving? hs).2 hmade)

/-- A service that something is missing for has an empty cell. -/
theorem World.Wired.cell?_eq_none (hw : w.Wired home) (hk : k.Settled home)
    (hr : r ∈ registrationsOf (reg k.assembly) k.kind) (hmissing : k.FirstMissing reg missing r.construction.keys)
    {cell : String} (hcell : r.cellName? = some cell) : w.cell? k.store cell = none := by
  obtain ⟨s, rfl, hs, hregisters⟩ := Keeper.exists_registers (hlaid _ _ hk.own) hr
  have hlaids := hlaid _ _ hk.own
  have hplace : s.place? = some (s.keeper.store, cell) := by
    rw [hregisters.place?_eq hs hlaids, hcell, Option.map_some]
  -- An instance in the cell would be evidence that nothing is missing.
  by_contra hfilled
  obtain ⟨id, hid⟩ := Option.ne_none_iff_exists'.mp hfilled
  have hneeds := hw.supplies hlaid hk (hw.made_of_cell? hs hk hplace hid)
  rw [← hregisters.keys_eq hs hlaids] at hneeds
  exact hneeds.not_firstMissing hmissing

end

end

/-! ### Runs -/

/-- What comes of a request to a handle in a state. -/
structure Stage.Answers (reg : Assembly → List Registration) (s : Stage) (source : String) (h : Handle)
    (type : String) : Prop where
  outcome : (s.perform (.get source type)).2 = .absent ∨ (∃ id, (s.perform (.get source type)).2 = .found id) ∨
    ∃ missing, (s.perform (.get source type)).2 = .refused (.notRegistered missing)
  absent : (s.perform (.get source type)).2 = .absent ↔ ¬ h.Sees type
  found : (∃ id, (s.perform (.get source type)).2 = .found id) ↔
    ∃ owner r, h.registration? reg type = some (owner, r) ∧ owner.Supplies reg r.construction.keys
  refused : ∀ e, (s.perform (.get source type)).2 = .refused e ↔
    ∃ owner r missing, h.registration? reg type = some (owner, r) ∧
      owner.FirstMissing reg missing r.construction.keys ∧ e = .notRegistered missing
  /-- A scoped service belongs to a provider that the handle asks, any other to the root provider under one. -/
  owner : ∀ owner r, h.registration? reg type = some (owner, r) →
    ∃ k ∈ h.keepers, owner = if r.lifetime = .scoped then k else k.toRoot
  /-- A refusal leaves the cells empty of all services that something is missing for. -/
  empty : ∀ e, (s.perform (.get source type)).2 = .refused e → ∀ k ∈ h.keepers, ∀ l, l = k ∨ l = k.toRoot →
    ∀ r ∈ registrationsOf (reg l.assembly) l.kind, ∀ missing, l.FirstMissing reg missing r.construction.keys →
    ∀ cell, r.cellName? = some cell → (s.perform (.get source type)).1.world.cell? l.store cell = none
  again : ∀ e, (s.perform (.get source type)).2 = .refused e →
    ((s.perform (.get source type)).1.perform (.get source type)).2 = .refused e

namespace Stage

variable {reg : Assembly → List Registration} {c : Census} {s : Stage} {held : List Receipt}
variable {source type : String} {h : Handle}

theorem request_handles (s : Stage) (attempt : Attempt (Option Nat)) :
    (s.request attempt).1.handles = s.handles := by
  rw [request]
  split <;> rfl

theorem handle?_perform_get (s : Stage) (source type name : String) :
    (s.perform (.get source type)).1.handle? name = s.handle? name := by
  rw [handle?, handle?]
  rw [perform, onHandle]
  split
  · rw [request_handles]
  · rfl

theorem run_append (s : Stage) (before after : List Step) : s.run (before ++ after) = (s.run before).run after :=
  List.foldl_append

/-- A request comes to what the registrations say. -/
theorem Valid.perform_get_verdict (hs : s.Valid c held) (hw : s.world.Wired c.home)
    (hlaid : ∀ n k, c.home n = some k → k.assembly.LaidOut (reg k.assembly)) (hh : s.handle? source = some h) :
    h.Verdict reg type (s.perform (.get source type)).2 := by
  have hsettled : h.Settled c.home := (hs.regular _ (handle?_eq_some hh)).settled
  rw [perform_get hh, request]
  split
  next r w' hrun =>
    obtain ⟨hleads, hends⟩ := hsettled.wired_get hlaid hw type r w' hrun
    exact hsettled.verdict hlaid hleads.wired hends
  next hrun => exact absurd hrun (hsettled.halts_get type s.world)

/-- The answers to requests depend on the registrations and the handle only, in every state of every run. -/
theorem answers_of_run {steps : List Step} (hsteps : ∀ t ∈ steps, t.Operates fun a => a.LaidOut (reg a) ∧ a.Acyclic)
    (hh : (({} : Stage).run steps).handle? source = some h) (type : String) :
    (({} : Stage).run steps).Answers reg source h type := by
  -- The state before the request is that of a run, and so is the state after it.
  obtain ⟨c, held, hlaid, hvalid, hwired⟩ := wired_run hsteps
  have hafter : ∀ t ∈ steps ++ [.get source type], t.Operates fun a => a.LaidOut (reg a) ∧ a.Acyclic :=
    List.forall_mem_append.mpr ⟨hsteps, by simp [Step.Operates]⟩
  obtain ⟨c', held', hlaid', hvalid', hwired'⟩ := wired_run hafter
  rw [run_append, run_cons, run_nil] at hvalid' hwired'
  have hh' := (handle?_perform_get _ source type source).trans hh
  have hsettled' : h.Settled c'.home := (hvalid'.regular _ (handle?_eq_some hh')).settled
  have hlaidh : ∀ k ∈ h.keepers, k.assembly.LaidOut (reg k.assembly) :=
    fun k hk => hlaid' _ _ (hsettled'.2 k hk).own
  have hverdict : h.Verdict reg type _ := hvalid.perform_get_verdict hwired hlaid hh
  have hverdict' : h.Verdict reg type _ := hvalid'.perform_get_verdict hwired' hlaid' hh'
  refine ⟨hverdict.cases_outcome, hverdict.absent_iff hlaidh, hverdict.found_iff hlaidh, hverdict.refused_iff hlaidh,
    fun _ _ => Handle.registration?_owner, ?_, ?_⟩
  -- The world after the request is wired too, and a cell there would be evidence for what is missing.
  · intro e _ k hk l hl r hr missing hmissing cell hcell
    have hsettledl : l.Settled c'.home := by
      rcases hl with rfl | rfl
      · exact hsettled'.2 l hk
      · exact (hsettled'.2 k hk).toRoot
    exact hwired'.cell?_eq_none hlaid' hsettledl hr hmissing hcell
  -- The verdict is about the handle and not about the state, so it is the same after the request.
  · intro e he
    exact (hverdict'.refused_iff hlaidh e).mpr ((hverdict.refused_iff hlaidh e).mp he)

end Stage

namespace Sample

/-- A singleton that is made from a scoped service. -/
def ledger : Registration :=
  registered "Ledger" .singleton (.constructor "new" [.shared (.ofName "Clock"), .shared (.ofName "Session")]) false

/-- A service of each lifetime, and one that cannot be had. -/
def quartet : List Registration := [clock, ticket, session, ledger]

/-- A container with a service that cannot be had. -/
def branchContainer : Container := (Container.ofRegistrations {} quartet).outcome.toOption.get (by decide +kernel)

/-- The container with code that asks for nothing more. -/
def branch : Assembly where
  container := branchContainer
  typeName := TypeExpr.display
  requests _ := []

/-- A root provider and a scope on it, through which the session is asked for. -/
def opening : List Step := [.root branch "branch", .scope "branch" "day", .get "day" "Session"]

theorem branchContainer_eq : (Container.ofRegistrations {} quartet).outcome = .ok branchContainer := by
  rw [branchContainer]
  exact eq_ok_of_isSome _

theorem branch_laidOut : branch.LaidOut quartet := by
  refine ⟨fun r hr => ?_, {}, by rw [branchContainer_eq, branch]⟩
  simp only [quartet, List.mem_cons, List.not_mem_nil, or_false] at hr
  rcases hr with rfl | rfl | rfl | rfl <;> exact TypeExpr.isLexical_ofName (by decide +kernel)

theorem branch_acyclic : branch.Acyclic :=
  acyclic_of_wants branch_laidOut fun kind => by cases kind <;> decide +kernel

theorem opening_operate : ∀ t ∈ opening, t.Operates fun a => a.LaidOut quartet ∧ a.Acyclic := by
  simp [opening, Step.Operates, branch_laidOut, branch_acyclic]

theorem opening_handle? : (({} : Stage).run opening).handle? "day" =
    some (.scope 0 true (.scoped branch (.root branch 0) 1)) := by
  rw [opening, Stage.run_cons, Stage.run_cons, Stage.run_cons, Stage.run_nil, Stage.handle?_perform_get]
  rfl

/-- The ledger is a singleton, so its session would have to come from the root provider, which has none. -/
theorem ledger_firstMissing : (Keeper.mk branch 0 none).FirstMissing (fun _ => quartet) "Session"
    ledger.construction.keys := by
  have hclock : (Keeper.mk branch 0 none).registration? (fun _ => quartet) "Clock" = some (⟨branch, 0, none⟩, clock) :=
    rfl
  exact .later hclock .nil (.unregistered rfl rfl)

end Sample

theorem Stage.answers_of_opening :
    (({} : Stage).run Sample.opening).Answers (fun _ => Sample.quartet) "day"
      (.scope 0 true (.scoped Sample.branch (.root Sample.branch 0) 1)) "Ledger" ∧
    ((({} : Stage).run Sample.opening).perform (.get "day" "Ledger")).2 = .refused (.notRegistered "Session") := by
  have hanswers := answers_of_run Sample.opening_operate Sample.opening_handle? "Ledger"
  exact ⟨hanswers, (hanswers.refused _).mpr ⟨_, Sample.ledger, _, rfl, Sample.ledger_firstMissing, rfl⟩⟩

end ServiceContainer
