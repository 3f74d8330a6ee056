import ServiceContainer.Proofs.Wiring

/-!
# Which cells a request fills

A delivery makes an instance unless its cell has one; making it asks for the services behind the parameters in order,
as far as they can be had, and then for what the code asks for. So the cells that a delivery fills are those of the
services that it comes to in this way, less those that were filled before. The former are known from the registrations
alone: whatever keeps an instance for a service keeps one for every service that the first one comes to. A request
therefore adds the same cells in every state.

## Main definitions

* `Site.Calls`, `Site.Fills` — the services that a making asks for, and that a delivery comes to
* `World.FillsUp` — the cells of some services are filled, and no others
* `World.Stocked` — the invariant

## Main statements

* `stocksDeliveries` — deliveries with any bound fill the cells of what they come to
* `Handle.Settled.stocked_get` — a request does
-/

namespace ServiceContainer

open Relation

/-! ### What a delivery comes to -/

/-- All that the service is constructed from can be had. -/
def Site.Supplied (reg : Assembly → List Registration) (s : Site) : Prop := s.keeper.Supplies reg s.keys

/-- A provider that is asked for the keys in order comes to ask for the service: all before it can be had. -/
def Keeper.CallsFor (reg : Assembly → List Registration) (k : Keeper) (keys : List TypeExpr) (u : Site) : Prop :=
  ∃ before key after, keys = before ++ key :: after ∧ k.Supplies reg before ∧
    k.serving? (k.assembly.typeName key) = some u

/-- The provider has a service for the type that can be had. -/
def Keeper.Provides (reg : Assembly → List Registration) (k : Keeper) (type : String) : Prop :=
  ∃ u, k.serving? type = some u ∧ u.Supplied reg

namespace Site

variable (reg : Assembly → List Registration)

/-- Making an instance of one service asks for the other: for a parameter, or in the code, which runs when all
parameters were given. -/
def Calls (s u : Site) : Prop :=
  s.keeper.CallsFor reg s.keys u ∨ s.Supplied reg ∧
    ∃ type ∈ s.keeper.assembly.asked s.accessor.construct, s.keeper.serving? type = some u

/-- A delivery of one service leaves an instance of the other. -/
inductive Fills : Site → Site → Prop where
  | self {s : Site} (supplied : s.Supplied reg) : Fills s s
  | within {s u t : Site} (calls : s.Calls reg u) (fills : Fills u t) : Fills s t

end Site

/-- A request for the type leaves an instance of the service. -/
def Handle.Fills (reg : Assembly → List Registration) (h : Handle) (type : String) (t : Site) : Prop :=
  ∃ s, h.serving? type = some s ∧ s.Fills reg t

section

variable {reg : Assembly → List Registration} {k : Keeper} {s t u : Site} {key : TypeExpr} {keys : List TypeExpr}
variable {type : String}

theorem Keeper.provides_iff (hlaid : k.assembly.LaidOut (reg k.assembly)) : k.Provides reg type ↔
    ∃ owner r, k.registration? reg type = some (owner, r) ∧ owner.Supplies reg r.construction.keys := by
  constructor
  · rintro ⟨u, hserving, hsupplied⟩
    exact Keeper.exists_supplies hlaid hserving hsupplied
  · rintro ⟨owner, r, hregistered, hneeds⟩
    cases hserving : k.serving? type with
    | none => exact nomatch hregistered.symm.trans ((Keeper.registration?_eq_none hlaid).mpr hserving)
    | some u =>
      obtain ⟨q, hq, -, hkeys⟩ := Keeper.registration?_of_serving? hlaid hserving
      obtain ⟨rfl, rfl⟩ := Prod.mk.inj (Option.some.inj (hregistered.symm.trans hq))
      refine ⟨u, hserving, ?_⟩
      rwa [Site.Supplied, ← hkeys]

theorem Keeper.supplies_cons_iff (hlaid : k.assembly.LaidOut (reg k.assembly)) :
    k.Supplies reg (key :: keys) ↔ k.Provides reg (k.assembly.typeName key) ∧ k.Supplies reg keys := by
  rw [Keeper.supplies_iff, Keeper.supplies_iff, List.forall_mem_cons, Keeper.provides_iff hlaid]

theorem Keeper.not_callsFor_nil : ¬ k.CallsFor reg [] u := by
  rintro ⟨before, key, after, hkeys, -, -⟩
  cases before <;> cases hkeys

/-- The first key is asked for, and the others if it can be had. -/
theorem Keeper.callsFor_cons_iff (hlaid : k.assembly.LaidOut (reg k.assembly)) : k.CallsFor reg (key :: keys) u ↔
    k.serving? (k.assembly.typeName key) = some u ∨
      k.Provides reg (k.assembly.typeName key) ∧ k.CallsFor reg keys u := by
  constructor
  · rintro ⟨before, other, after, hkeys, hsupplies, hserving⟩
    cases before with
    | nil =>
      obtain ⟨rfl, -⟩ := List.cons.inj hkeys
      exact .inl hserving
    | cons first rest =>
      obtain ⟨rfl, rfl⟩ := List.cons.inj hkeys
      obtain ⟨hfirst, hrest⟩ := (Keeper.supplies_cons_iff hlaid).mp hsupplies
      exact .inr ⟨hfirst, rest, other, after, rfl, hrest, hserving⟩
  · rintro (hserving | ⟨hfirst, before, other, after, rfl, hsupplies, hserving⟩)
    · exact ⟨[], key, keys, rfl, .nil, hserving⟩
    · exact ⟨key :: before, other, after, rfl, (Keeper.supplies_cons_iff hlaid).mpr ⟨hfirst, hsupplies⟩, hserving⟩

/-- Making an instance asks for what the service needs only. -/
theorem Site.Calls.needs (h : s.Calls reg u) : s.Needs u := by
  rcases h with ⟨before, key, after, hkeys, -, hserving⟩ | ⟨-, type, htype, hserving⟩
  · have hkey : key ∈ s.keys := by simp [hkeys]
    obtain ⟨argument, hargument, hkey⟩ := List.mem_filterMap.mp hkey
    refine ⟨_, List.mem_append_left _ (List.mem_filterMap.mpr ⟨argument, hargument, ?_⟩), hserving⟩
    cases argument with
    | provider => cases hkey
    | shared | cloned => exact congrArg (fun key => key.map s.keeper.assembly.typeName) hkey
  · exact ⟨type, List.mem_append_right _ htype, hserving⟩

theorem Site.Fills.reflTransGen (h : s.Fills reg t) : ReflTransGen Site.Needs s t := by
  induction h with
  | self => exact .refl
  | within calls _ ih => exact .head calls.needs ih

end

/-! ### Filled cells -/

namespace World

/-- The cell has an instance. -/
def Filled (w : World) (p : Nat × String) : Prop := w.cell? p.1 p.2 ≠ none

/-- The cells of the services are filled besides those that were, and no others. -/
def FillsUp (w w' : World) (services : Site → Prop) : Prop :=
  ∀ p, w'.Filled p ↔ w.Filled p ∨ ∃ t, services t ∧ t.place? = some p

variable {w w' w'' : World} {services others : Site → Prop}

theorem filled_iff {p : Nat × String} : w.Filled p ↔ ∃ id, w.cell? p.1 p.2 = some id := Option.ne_none_iff_exists'

theorem filled_create (x : Instance) (p : Nat × String) : (w.create x).2.Filled p ↔ w.Filled p := Iff.rfl

theorem filled_fill {n : Nat} {c : String} {id : Nat} (p : Nat × String) :
    (w.fill n c id).Filled p ↔ w.Filled p ∨ p = (n, c) := by
  obtain ⟨m, d⟩ := p
  rw [Filled, Filled, cell?_fill, Prod.mk.injEq]
  cases w.cell? m d with
  | some y => simp
  | none => simp [eq_comm]

namespace FillsUp

theorem refl (h : ∀ t, services t → ∀ p, t.place? = some p → w.Filled p) : w.FillsUp w services :=
  fun p => ⟨.inl, fun hp => hp.elim id fun ⟨t, ht, hplace⟩ => h t ht p hplace⟩

theorem of_none (h : ∀ t, ¬ services t) : w.FillsUp w services := .refl fun t ht => absurd ht (h t)

theorem congr (h : w.FillsUp w' services) (hservices : ∀ t, services t ↔ others t) : w.FillsUp w' others := by
  intro p
  simp only [h p, hservices]

theorem trans (h : w.FillsUp w' services) (h' : w'.FillsUp w'' others) :
    w.FillsUp w'' fun t => services t ∨ others t := by
  intro p
  rw [h' p, h p, or_assoc]
  refine or_congr_right ⟨?_, ?_⟩
  · rintro (⟨t, ht, hplace⟩ | ⟨t, ht, hplace⟩)
    · exact ⟨t, .inl ht, hplace⟩
    · exact ⟨t, .inr ht, hplace⟩
  · rintro ⟨t, ht | ht, hplace⟩
    · exact .inl ⟨t, ht, hplace⟩
    · exact .inr ⟨t, ht, hplace⟩

end FillsUp

end World

/-! ### The invariant -/

/-- The code was answered with an instance for exactly the types that can be had. -/
def Keeper.AnsweredFully (reg : Assembly → List Registration) (k : Keeper) (types : List String)
    (answers : List (Option Nat)) : Prop :=
  List.Forall₂ (fun type (answer : Option Nat) => answer.isSome = true ↔ k.Provides reg type) types answers

/-- The instance is the one of a service: where the service has a cell, the instance is in it. -/
def World.Houses (home : Nat → Option Keeper) (w : World) (id : Nat) : Prop :=
  ∃ s : Site, s.Genuine ∧ s.keeper.Settled home ∧ s.Made w id ∧ ∀ n c, s.place? = some (n, c) → w.cell? n c = some id

/-- Whatever keeps an instance keeps those of all services that the first one comes to. -/
structure World.Stocked (reg : Assembly → List Registration) (home : Nat → Option Keeper) (w : World) : Prop where
  closed : ∀ p, w.Filled p → ∃ s : Site, s.place? = some p ∧ s.Genuine ∧ s.keeper.Settled home ∧
    ∀ t q, s.Fills reg t → t.place? = some q → w.Filled q
  housed : ∀ id < w.instances.length, w.Houses home id
  answered : ∀ (id : Nat) type (k : Keeper) construct arguments answers,
    w.instances[id]? = some (.built type k.handle construct arguments answers) →
    k.AnsweredFully reg (k.assembly.asked construct) answers

namespace World

section

variable {reg : Assembly → List Registration} {home home' : Nat → Option Keeper} {w w' : World} {s t : Site}
variable {x : Instance} {id : Nat} {p q : Nat × String}

theorem Houses.mono (h : w.Houses home id) (hinstances : w.instances <+: w'.instances)
    (hkept : ∀ n c y, w.cell? n c = some y → w'.cell? n c = some y) : w'.Houses home id := by
  obtain ⟨s, hs, hsettled, hmade, hcell⟩ := h
  exact ⟨s, hs, hsettled, hmade.mono hinstances, fun n c hplace => hkept n c id (hcell n c hplace)⟩

namespace Stocked

theorem filled_of_fills (hw : w.Stocked reg home) (hs : s.Genuine) (hsettled : s.keeper.Settled home)
    (hplace : s.place? = some p) (hp : w.Filled p) (ht : s.Fills reg t) (hq : t.place? = some q) : w.Filled q := by
  obtain ⟨s', hplace', hs', hsettled', hclosed⟩ := hw.closed p hp
  obtain rfl := Site.eq_of_place? hs hsettled hs' hsettled' hplace hplace'
  exact hclosed t q ht hq

/-- A world is stocked if its instances and cells are those of a stocked one. -/
theorem congr (hw : w.Stocked reg home) (hinstances : w'.instances = w.instances) (hcells : w'.cells = w.cells) :
    w'.Stocked reg home := by
  have hcell : w'.cell? = w.cell? := by
    funext n c
    rw [cell?, cell?, hcells]
  refine ⟨fun p hp => ?_, fun id hid => ?_, ?_⟩
  · rw [Filled, hcell] at hp
    obtain ⟨s, hplace, hs, hsettled, hclosed⟩ := hw.closed p hp
    refine ⟨s, hplace, hs, hsettled, fun t q ht hq => ?_⟩
    rw [Filled, hcell]
    exact hclosed t q ht hq
  · rw [hinstances] at hid
    exact (hw.housed id hid).mono (hinstances ▸ List.prefix_refl _) fun n c y hy => hcell ▸ hy
  · rw [hinstances]
    exact hw.answered

theorem mono (hw : w.Stocked reg home) (hhome : ∀ n l, home n = some l → home' n = some l) : w.Stocked reg home' where
  closed p hp :=
    let ⟨s, hplace, hs, hsettled, hclosed⟩ := hw.closed p hp
    ⟨s, hplace, hs, hsettled.mono hhome, hclosed⟩
  housed id hid :=
    let ⟨s, hs, hsettled, hmade, hcell⟩ := hw.housed id hid
    ⟨s, hs, hsettled.mono hhome, hmade, hcell⟩
  answered := hw.answered

/-- One more instance, which may have gone into the cell of its service. -/
theorem add (hw : w.Stocked reg home) (hinstances : w'.instances = w.instances ++ [x])
    (hkept : ∀ n c y, w.cell? n c = some y → w'.cell? n c = some y) (hnew : w'.Houses home w.instances.length)
    (hanswered : ∀ type (k : Keeper) construct arguments answers, x = .built type k.handle construct arguments answers →
      k.AnsweredFully reg (k.assembly.asked construct) answers)
    (hfilled : ∀ p, w'.Filled p → w.Filled p ∨ ∃ s : Site, s.place? = some p ∧ s.Genuine ∧ s.keeper.Settled home ∧
      ∀ t q, s.Fills reg t → t.place? = some q → w'.Filled q) : w'.Stocked reg home where
  closed p hp := by
    rcases hfilled p hp with hold | hnew
    · obtain ⟨s, hplace, hs, hsettled, hclosed⟩ := hw.closed p hold
      refine ⟨s, hplace, hs, hsettled, fun t q ht hq => ?_⟩
      obtain ⟨y, hy⟩ := filled_iff.mp (hclosed t q ht hq)
      exact filled_iff.mpr ⟨y, hkept _ _ y hy⟩
    · exact hnew
  housed id hid := by
    rw [hinstances, List.length_append, List.length_singleton] at hid
    rcases Nat.lt_succ_iff_lt_or_eq.mp hid with hid | rfl
    · exact (hw.housed id hid).mono (hinstances ▸ List.prefix_append _ _) hkept
    · exact hnew
  answered id type k construct arguments answers hid := by
    rw [hinstances, List.getElem?_append] at hid
    split at hid
    · exact hw.answered id type k construct arguments answers hid
    · rw [List.getElem?_singleton, Option.ite_none_right_eq_some] at hid
      exact hanswered type k construct arguments answers (Option.some.inj hid.2)

end Stocked

end

end World

/-! ### How requests end -/

section

variable {reg : Assembly → List Registration} {home : Nat → Option Keeper} {w : World} {s : Site} {k : Keeper}
variable {type : String}

/-- A delivery ends with an instance exactly if the service can be had. -/
theorem Site.EndsIn.supplied_iff (hlaid : ∀ n k, home n = some k → k.assembly.LaidOut (reg k.assembly))
    (hw : w.Wired home) (hs : s.keeper.Settled home) {r : Except DependencyError Nat} (h : s.EndsIn reg w r) :
    s.Supplied reg ↔ ∃ id, r = .ok id := by
  cases r with
  | ok id => exact iff_of_true (hw.supplies hlaid hs h) ⟨id, rfl⟩
  | error e =>
    obtain ⟨missing, hmissing, -⟩ := h
    exact iff_of_false (fun hsupplied => hsupplied.not_firstMissing hmissing) fun ⟨_, he⟩ => nomatch he

/-- A request to a provider is answered with an instance exactly if the provider has a service that can be had. -/
theorem Keeper.provides_iff_of_endsIn (hlaid : ∀ n k, home n = some k → k.assembly.LaidOut (reg k.assembly))
    (hw : w.Wired home) (hk : k.Settled home) {r : Except DependencyError (Option Nat)}
    (h : k.handle.EndsIn reg type w r) : r.toOption.join.isSome = true ↔ k.Provides reg type := by
  rcases r with e | _ | id
  · obtain ⟨s, hserving, hends⟩ := h
    rw [Keeper.serving?_handle] at hserving
    have hmissing := (hends.supplied_iff hlaid hw (hk.of_serving? hserving).2).not.mpr (by simp)
    refine iff_of_false (by simp [Except.toOption]) ?_
    rintro ⟨u, hu, hsupplied⟩
    refine hmissing ?_
    rwa [Option.some.inj (hserving.symm.trans hu)]
  · rw [Handle.EndsIn, Keeper.serving?_handle] at h
    refine iff_of_false (by simp [Except.toOption]) ?_
    rintro ⟨u, hu, -⟩
    cases h.symm.trans hu
  · obtain ⟨s, hserving, hmade⟩ := h
    rw [Keeper.serving?_handle] at hserving
    exact iff_of_true rfl ⟨s, hserving, hw.supplies hlaid (hk.of_serving? hserving).2 hmade⟩

end

/-! ### Deliveries -/

/-- Deliveries with the bound keep a world stocked and fill the cells of what they come to. -/
def StocksDeliveries (reg : Assembly → List Registration) (home : Nat → Option Keeper) (depth : Nat) : Prop :=
  ∀ (s : Site) (w : World), s.Genuine → s.keeper.Settled home → w.Wired home → w.Stocked reg home →
    (s.deliver depth).Ensures w fun _ w' => w'.Stocked reg home ∧ w.FillsUp w' (s.Fills reg)

/-- Requests with the bound keep a world stocked and fill the cells of what they come to. -/
def StocksAnswers (reg : Assembly → List Registration) (home : Nat → Option Keeper) (depth : Nat) : Prop :=
  ∀ (h : Handle) (type : String) (w : World), h.Settled home → w.Wired home → w.Stocked reg home →
    (Asker.get (ask depth) h type).Ensures w fun _ w' => w'.Stocked reg home ∧ w.FillsUp w' (h.Fills reg type)

section

variable {reg : Assembly → List Registration} {home : Nat → Option Keeper} {depth : Nat} {k : Keeper} {w : World}

theorem StocksDeliveries.answers (hd : StocksDeliveries reg home depth) : StocksAnswers reg home (depth + 1) := by
  intro h type w hh hw hstocked
  rw [get_ask_eq hh.1]
  cases hs : h.serving? type with
  | none => exact .pure ⟨hstocked, .of_none fun t ⟨s, hserving, _⟩ => nomatch hs.symm.trans hserving⟩
  | some s =>
    obtain ⟨hgenuine, hsettled⟩ := hh.of_serving? hs
    refine .map ((hd s w hgenuine hsettled hw hstocked).mono fun r w' ⟨hstocked', hfills⟩ => ⟨hstocked', ?_⟩)
    refine hfills.congr fun t => ⟨fun ht => ⟨s, hs, ht⟩, fun ⟨u, hu, ht⟩ => ?_⟩
    rwa [Option.some.inj (hs.symm.trans hu)]

theorem stocksAnswers_zero : StocksAnswers reg home 0 := by
  intro h type w _ _ _
  have hnever : (ask 0 h type).Ensures w fun _ _ => False := .endless
  exact hnever.bind (fun _ _ h => h.elim) fun _ _ h => h.elim

theorem StocksAnswers.require (ha : StocksAnswers reg home depth) {h : Handle} (hh : h.Settled home)
    (hw : w.Wired home) (hstocked : w.Stocked reg home) (type : String) :
    (Asker.require (ask depth) h type).Ensures w fun _ w' =>
      w'.Stocked reg home ∧ w.FillsUp w' (h.Fills reg type) := by
  refine (ha h type w hh hw hstocked).bind (fun answer w' hw' => ?_) fun _ _ hw' => hw'
  cases answer with
  | some id => exact .pure hw'
  | none => exact .throw hw'

/-- A parameter leads to the services behind its key. -/
def Argument.Fills (reg : Assembly → List Registration) (k : Keeper) (argument : Argument) (t : Site) : Prop :=
  ∃ key ∈ argument.key?, k.handle.Fills reg (k.assembly.typeName key) t

theorem StocksAnswers.give (ha : StocksAnswers reg home depth) (hk : k.Settled home) (hw : w.Wired home)
    (hstocked : w.Stocked reg home) (argument : Argument) :
    (argument.give (ask depth) k.handle k.assembly).Ensures w fun _ w' =>
      w'.Stocked reg home ∧ w.FillsUp w' (argument.Fills reg k) := by
  cases argument with
  | provider => exact .pure ⟨hstocked, .of_none fun t ⟨key, hkey, _⟩ => nomatch hkey⟩
  | shared key | cloned key =>
    have hfills (t : Site) : k.handle.Fills reg (k.assembly.typeName key) t ↔
        ∃ other ∈ some key, k.handle.Fills reg (k.assembly.typeName other) t := by simp
    refine (ha.require hk.handle hw hstocked (k.assembly.typeName key)).bind
      (fun id w' hw' => .pure ?_) fun e w' hw' => ?_
    · exact ⟨hw'.1, hw'.2.congr hfills⟩
    · exact ⟨hw'.1, hw'.2.congr hfills⟩

/-- The provider has what the parameter is an instance of. -/
def Argument.Available (reg : Assembly → List Registration) (k : Keeper) (argument : Argument) : Prop :=
  ∀ key ∈ argument.key?, k.Provides reg (k.assembly.typeName key)

variable {argument : Argument} {rest : List Argument} {u : Site}

theorem Argument.callsFor_cons_iff (hlaid : k.assembly.LaidOut (reg k.assembly)) :
    k.CallsFor reg ((argument :: rest).filterMap Argument.key?) u ↔
      (∃ key ∈ argument.key?, k.serving? (k.assembly.typeName key) = some u) ∨
        argument.Available reg k ∧ k.CallsFor reg (rest.filterMap Argument.key?) u := by
  cases hkey : argument.key? with
  | none =>
    rw [List.filterMap_cons_none hkey]
    simp [Argument.Available, hkey]
  | some key =>
    rw [List.filterMap_cons_some hkey, Keeper.callsFor_cons_iff hlaid]
    simp [Argument.Available, hkey]

variable (hlaid : ∀ n k, home n = some k → k.assembly.LaidOut (reg k.assembly))

include hlaid in
theorem World.Has.provides {type : String} {id : Nat} (h : w.Has k.handle type id) (hw : w.Wired home)
    (hk : k.Settled home) : k.Provides reg type := by
  obtain ⟨s, hserving, hmade⟩ := h
  rw [Keeper.serving?_handle] at hserving
  exact ⟨s, hserving, hw.supplies hlaid (hk.of_serving? hserving).2 hmade⟩

include hlaid in
theorem Argument.GivenBy.available {g : Given} (hg : argument.GivenBy w k g) (hw : w.Wired home) (hk : k.Settled home) :
    argument.Available reg k := by
  intro key hkey
  have hrel := hg.rel
  rw [hkey] at hrel
  generalize g.source? = y at hrel
  cases hrel with
  | some hhas => exact hhas.provides hlaid hw hk

include hlaid in
theorem Keeper.supplies_of_givenBy {arguments : List Argument} {gs : List Given}
    (hgiven : List.Forall₂ (Argument.GivenBy w k) arguments gs) (hw : w.Wired home) (hk : k.Settled home) :
    k.Supplies reg (arguments.filterMap Argument.key?) := by
  refine Keeper.supplies_iff.mpr fun key hkey => (Keeper.provides_iff (hlaid _ _ hk.own)).mp ?_
  obtain ⟨y, -, hhas⟩ := exists_rel_of_mem_right (Argument.has_of_givenBy hgiven).flip hkey
  exact World.Has.provides hlaid hhas hw hk

/-- A parameter for which something is missing is not available. -/
theorem Argument.not_available (hlaid : k.assembly.LaidOut (reg k.assembly)) {missing : String}
    (h : k.FirstMissing reg missing ([argument].filterMap Argument.key?)) : ¬ argument.Available reg k := by
  intro havailable
  have hsupplies : k.Supplies reg ([argument].filterMap Argument.key?) := by
    cases hkey : argument.key? with
    | none =>
      rw [List.filterMap_cons_none hkey]
      exact .nil
    | some key =>
      rw [List.filterMap_cons_some hkey]
      exact (Keeper.supplies_cons_iff hlaid).mpr ⟨havailable key hkey, .nil⟩
  exact hsupplies.not_firstMissing h

include hlaid in
/-- Parameters lead to the services behind their keys, as far as the keys can be had. -/
theorem StocksAnswers.giveAll (ha : StocksAnswers reg home depth) (hwires : WiresAnswers reg home depth)
    (hk : k.Settled home) (hw : w.Wired home) (hstocked : w.Stocked reg home) (arguments : List Argument) :
    (arguments.mapM (Argument.give (ask depth) k.handle k.assembly)).Ensures w fun _ w' => w'.Stocked reg home ∧
      w.FillsUp w' fun t => ∃ u, k.CallsFor reg (arguments.filterMap Argument.key?) u ∧ u.Fills reg t := by
  have hlaidk := hlaid _ _ hk.own
  induction arguments generalizing w with
  | nil =>
    rw [List.mapM_nil]
    exact .pure ⟨hstocked, .of_none fun t ⟨u, hcalls, _⟩ => Keeper.not_callsFor_nil hcalls⟩
  | cons argument rest ih =>
    rw [List.mapM_cons]
    -- What the first parameter leads to is part of what all lead to, and the rest is reached if it is available.
    have hsplit (t : Site) : (∃ u, k.CallsFor reg ((argument :: rest).filterMap Argument.key?) u ∧ u.Fills reg t) ↔
        argument.Fills reg k t ∨
          argument.Available reg k ∧ ∃ u, k.CallsFor reg (rest.filterMap Argument.key?) u ∧ u.Fills reg t := by
      simp only [Argument.callsFor_cons_iff hlaidk, Argument.Fills, Handle.Fills, Keeper.serving?_handle]
      constructor
      · rintro ⟨u, ⟨key, hkey, hserving⟩ | ⟨havailable, hcalls⟩, ht⟩
        · exact .inl ⟨key, hkey, u, hserving, ht⟩
        · exact .inr ⟨havailable, u, hcalls, ht⟩
      · rintro (⟨key, hkey, u, hserving, ht⟩ | ⟨havailable, u, hcalls, ht⟩)
        · exact ⟨u, .inl ⟨key, hkey, hserving⟩, ht⟩
        · exact ⟨u, .inr ⟨havailable, hcalls⟩, ht⟩
    refine ((hwires.give hlaid hk hw argument).and (ha.give hk hw hstocked argument)).bind
      (fun g w₁ ⟨⟨hleads, hgiven⟩, hstocked₁, hfills⟩ => ?_)
      fun e w₁ ⟨⟨_, missing, hmissing, _⟩, hstocked₁, hfills⟩ => ⟨hstocked₁, hfills.congr fun t => ?_⟩
    · have havailable := hgiven.available hlaid hleads.wired hk
      have hall {w₂ : World} (hrest : w₁.FillsUp w₂ fun t =>
          ∃ u, k.CallsFor reg (rest.filterMap Argument.key?) u ∧ u.Fills reg t) : w.FillsUp w₂ fun t =>
          ∃ u, k.CallsFor reg ((argument :: rest).filterMap Argument.key?) u ∧ u.Fills reg t :=
        (hfills.trans hrest).congr fun t => by rw [hsplit t, and_iff_right havailable]
      refine (ih hleads.wired hstocked₁).bind (fun gs w₂ ⟨hstocked₂, hrest⟩ => .pure ⟨hstocked₂, hall hrest⟩) ?_
      exact fun e w₂ ⟨hstocked₂, hrest⟩ => ⟨hstocked₂, hall hrest⟩
    · -- The refusal ends the row: nothing after the parameter is asked for.
      have hnot := Argument.not_available hlaidk (hmissing [])
      rw [hsplit t, or_iff_left fun h => hnot h.1]

include hlaid in
/-- What the code asks for leads to the services behind it. -/
theorem StocksAnswers.answersTo (ha : StocksAnswers reg home depth) (hwires : WiresAnswers reg home depth)
    (hk : k.Settled home) (hw : w.Wired home) (hstocked : w.Stocked reg home) (types : List String) :
    (answersTo (ask depth) k.handle types).Ensures w fun r w' => ∃ answers, r = .ok answers ∧ w'.Stocked reg home ∧
      (w.FillsUp w' fun t => ∃ type ∈ types, k.handle.Fills reg type t) ∧ k.AnsweredFully reg types answers := by
  induction types generalizing w with
  | nil =>
    have hnone : w.FillsUp w fun t => ∃ type ∈ [], k.handle.Fills reg type t := .of_none fun t => by simp
    exact .pure ⟨[], rfl, hstocked, hnone, .nil⟩
  | cons type rest ih =>
    have hobserve : (Asker.get (ask depth) k.handle type).observe.Ensures w fun r w' => ∃ x, r = .ok x ∧
        (w.Leads home w' ∧ k.handle.EndsIn reg type w' x) ∧ w'.Stocked reg home ∧
          w.FillsUp w' (k.handle.Fills reg type) :=
      .observe (((hwires k.handle type w hk.handle hw).and (ha k.handle type w hk.handle hw hstocked)).mono
        fun r w' hends => ⟨r, rfl, hends⟩)
    refine hobserve.bind (fun x w₁ hx => ?_) fun _ _ ⟨_, he, _⟩ => nomatch he
    obtain ⟨_, hok, ⟨hleads, hends⟩, hstocked₁, hfills⟩ := hx
    obtain rfl := Except.ok.inj hok
    refine (ih hleads.wired hstocked₁).bind (fun answers w₂ hanswers => .pure ?_) fun _ _ ⟨_, he, _⟩ => nomatch he
    obtain ⟨_, hok', hstocked₂, hrest, hanswered⟩ := hanswers
    obtain rfl := Except.ok.inj hok'
    refine ⟨_, rfl, hstocked₂, (hfills.trans hrest).congr fun t => by simp, .cons ?_ hanswered⟩
    exact Keeper.provides_iff_of_endsIn hlaid hleads.wired hk hends

/-! ### Making and delivering -/

/-- The services that making an instance comes to. -/
def Site.FillsWithin (reg : Assembly → List Registration) (s t : Site) : Prop := ∃ u, s.Calls reg u ∧ u.Fills reg t

omit hlaid in
theorem Site.fills_iff {s t : Site} : s.Fills reg t ↔ s.Supplied reg ∧ t = s ∨ s.FillsWithin reg t := by
  constructor
  · rintro (hsupplied | ⟨hcalls, ht⟩)
    · exact .inl ⟨hsupplied, rfl⟩
    · exact .inr ⟨_, hcalls, ht⟩
  · rintro (⟨hsupplied, rfl⟩ | ⟨u, hcalls, ht⟩)
    · exact .self hsupplied
    · exact .within hcalls ht

omit hlaid in
theorem Site.fillsWithin_iff {s t : Site} : s.FillsWithin reg t ↔
    (∃ u, s.keeper.CallsFor reg s.keys u ∧ u.Fills reg t) ∨
      s.Supplied reg ∧ ∃ type ∈ s.keeper.assembly.asked s.accessor.construct, s.keeper.handle.Fills reg type t := by
  simp only [Site.FillsWithin, Site.Calls, Handle.Fills, Keeper.serving?_handle]
  constructor
  · rintro ⟨u, hcalls | ⟨hsupplied, type, htype, hserving⟩, ht⟩
    · exact .inl ⟨u, hcalls, ht⟩
    · exact .inr ⟨hsupplied, type, htype, u, hserving, ht⟩
  · rintro (⟨u, hcalls, ht⟩ | ⟨hsupplied, type, htype, u, hserving, ht⟩)
    · exact ⟨u, .inl hcalls, ht⟩
    · exact ⟨u, .inr ⟨hsupplied, type, htype, hserving⟩, ht⟩

omit hlaid in
theorem Site.FillsWithin.transGen {s t : Site} (h : s.FillsWithin reg t) : TransGen Site.Needs s t := by
  obtain ⟨u, hcalls, ht⟩ := h
  exact .head' hcalls.needs ht.reflTransGen

/-- The world is another one with an instance of the service that is nobody's yet. -/
structure Site.Adds (reg : Assembly → List Registration) (home : Nat → Option Keeper) (s : Site) (w : World)
    (id : Nat) (w' : World) (x : Instance) : Prop where
  stocked : w.Stocked reg home
  id_eq : id = w.instances.length
  result : w' = (w.create x).2
  made : s.Made w' id
  answered : ∀ type (k : Keeper) construct arguments answers, x = .built type k.handle construct arguments answers →
    k.AnsweredFully reg (k.assembly.asked construct) answers

include hlaid in
theorem StocksAnswers.make (ha : StocksAnswers reg home depth) (hwires : WiresAnswers reg home depth) {s : Site}
    (hk : s.keeper.Settled home) (hw : w.Wired home) (hstocked : w.Stocked reg home) :
    (s.keeper.assembly.make (ask depth) s.keeper.handle s.accessor.construct).Ensures w fun r w' =>
      (∀ e, r = .error e → w'.Stocked reg home ∧ w.FillsUp w' (s.FillsWithin reg) ∧ ¬ s.Supplied reg) ∧
        ∀ id, r = .ok id → s.Supplied reg ∧ ∃ w₁ x, w.FillsUp w₁ (s.FillsWithin reg) ∧ s.Adds reg home w₁ id w' x := by
  refine ((hwires.giveAll hlaid hk hw s.accessor.construct.arguments).and
    (ha.giveAll hlaid hwires hk hw hstocked s.accessor.construct.arguments)).bind
    (fun gs w₁ hgiven => ?_) fun e w₁ hrefused => ?_
  · -- All parameters were given, so the code runs: it asks for more, and then there is a new instance.
    obtain ⟨⟨hleads₁, hgs⟩, hstocked₁, hfills₁⟩ := hgiven
    have hsupplied : s.Supplied reg := Keeper.supplies_of_givenBy hlaid hgs hleads₁.wired hk
    refine (ha.answersTo hlaid hwires hk hleads₁.wired hstocked₁ (s.keeper.assembly.asked s.accessor.construct)).bind
      (fun answers w₂ hanswers => .changeGet ⟨fun _ hfails => (by cases hfails), fun id hid => ?_⟩)
      fun e w₂ hanswers => ?_
    case refine_2 =>
      obtain ⟨_, hok, -⟩ := hanswers
      cases hok
    obtain ⟨_, hok, hstocked₂, hfills₂, hanswered⟩ := hanswers
    obtain rfl := Except.ok.inj hok
    refine ⟨hsupplied, w₂, _, (hfills₁.trans hfills₂).congr fun t => ?_, hstocked₂, (Except.ok.inj hid).symm, rfl,
      ?_, ?_⟩
    · rw [Site.fillsWithin_iff, and_iff_right hsupplied]
      rfl
    · rw [← Except.ok.inj hid]
      refine ⟨s.keeper.assembly.typeName s.accessor.construct.implementation, gs, answers, ?_⟩
      rw [World.create, List.getElem?_concat_length]
    · rintro type k construct arguments answers' hx
      obtain ⟨-, hhandle, rfl, -, rfl⟩ := Instance.built.inj hx
      rw [← Keeper.handle_injective hhandle]
      exact hanswered
  · -- A parameter was refused, so the code does not run and asks for nothing.
    obtain ⟨⟨_, missing, hmissing, _⟩, hstocked₁, hfills₁⟩ := hrefused
    have hnot : ¬ s.Supplied reg := fun hsupplied => hsupplied.not_firstMissing hmissing
    refine ⟨fun _ _ => ⟨hstocked₁, hfills₁.congr fun t => ?_, hnot⟩, fun _ hmakes => by cases hmakes⟩
    rw [Site.fillsWithin_iff, or_iff_left fun h => hnot h.1]
    rfl

section

variable {s : Site} {id : Nat} {w₁ w₂ : World} {x : Instance}

omit hlaid in
/-- An instance of a service without a cell is nobody's. -/
theorem Site.Adds.fresh (h : s.Adds reg home w₁ id w₂ x) (hs : s.Genuine) (hk : s.keeper.Settled home)
    (hplace : s.place? = none) (hfills : w.FillsUp w₁ (s.FillsWithin reg)) :
    w₂.Stocked reg home ∧ w.FillsUp w₂ (s.Fills reg) := by
  obtain ⟨hstocked, rfl, rfl, hmade, hanswered⟩ := h
  refine ⟨hstocked.add rfl (fun _ _ _ h => h) ⟨s, hs, hk, hmade, fun n c hp => nomatch hplace.symm.trans hp⟩ hanswered
    fun p hp => .inl hp, fun p => ?_⟩
  rw [World.filled_create, hfills p]
  refine or_congr_right (exists_congr fun t => and_congr_left fun hp => ?_)
  rw [Site.fills_iff, or_iff_right]
  rintro ⟨-, rfl⟩
  exact nomatch hplace.symm.trans hp

omit hlaid in
/-- An instance of a service goes into its cell, if the cell is empty. -/
theorem Site.Adds.kept (h : s.Adds reg home w₁ id w₂ x) (hs : s.Genuine) (hk : s.keeper.Settled home)
    (hsupplied : s.Supplied reg) {n : Nat} {c : String} (hplace : s.place? = some (n, c))
    (hfills : w.FillsUp w₁ (s.FillsWithin reg)) (hempty : w₁.cell? n c = none) :
    (w₂.fill n c id).Stocked reg home ∧ w.FillsUp (w₂.fill n c id) (s.Fills reg) := by
  obtain ⟨hstocked, rfl, rfl, hmade, hanswered⟩ := h
  -- The cells of what the making came to were filled before, so the service's own cell is the only new one.
  have hfillsUp : w.FillsUp ((w₁.create x).2.fill n c w₁.instances.length) (s.Fills reg) := by
    intro p
    rw [World.filled_fill, World.filled_create, hfills p, or_assoc]
    refine or_congr_right ⟨?_, ?_⟩
    · rintro (⟨t, ht, hp⟩ | rfl)
      · exact ⟨t, Site.fills_iff.mpr (.inr ht), hp⟩
      · exact ⟨s, .self hsupplied, hplace⟩
    · rintro ⟨t, ht, hp⟩
      rcases Site.fills_iff.mp ht with ⟨-, rfl⟩ | ht
      · exact .inr (Option.some.inj (hp.symm.trans hplace))
      · exact .inl ⟨t, ht, hp⟩
  have hkept (m : Nat) (d : String) (y : Nat) (hy : w₁.cell? m d = some y) :
      ((w₁.create x).2.fill n c w₁.instances.length).cell? m d = some y := by
    rw [World.cell?_fill]
    change (w₁.cell? m d).or _ = some y
    rw [hy, Option.some_or]
  refine ⟨hstocked.add rfl hkept ⟨s, hs, hk, hmade, fun m d hp => ?_⟩ hanswered fun p hp => ?_, hfillsUp⟩
  · obtain ⟨rfl, rfl⟩ := Prod.mk.inj (Option.some.inj (hplace.symm.trans hp))
    rw [World.cell?_fill]
    change (w₁.cell? n c).or _ = _
    rw [hempty, Option.none_or, if_pos ⟨rfl, rfl⟩]
  · rcases (World.filled_fill p).mp hp with hp | rfl
    · exact .inl hp
    · exact .inr ⟨s, hplace, hs, hk, fun t q ht hq => (hfillsUp q).mpr (.inr ⟨t, ht, hq⟩)⟩

omit hlaid in
/-- The cell of a service stays empty while an instance for it is made. -/
theorem World.FillsUp.cell?_eq_none (h : w.FillsUp w₁ (s.FillsWithin reg)) (hs : s.Genuine)
    (hk : s.keeper.Settled home) {n : Nat} {c : String} (hplace : s.place? = some (n, c)) (hnone : w.cell? n c = none) :
    w₁.cell? n c = none := by
  by_contra hfilled
  rcases (h (n, c)).mp hfilled with hold | ⟨t, ht, hp⟩
  · exact hold hnone
  · -- The making comes to what the service needs only, and nothing needs itself.
    obtain ⟨hgenuine, hsettled⟩ := Site.settled_of_transGen hk ht.transGen
    exact Site.place?_ne_of_transGen hs hk ht.transGen hgenuine hsettled hplace hp

include hlaid in
theorem StocksAnswers.deliveries (ha : StocksAnswers reg home depth) (hwires : WiresAnswers reg home depth) :
    StocksDeliveries reg home depth := by
  intro s w hs hk hw hstocked
  have hmake := ha.make hlaid hwires hk hw hstocked
  rw [Site.deliver, Accessor.deliver]
  split
  next cell implementation construct hbody =>
    have hconstruct : s.accessor.construct = construct := by rw [Accessor.construct, hbody]
    have hplace : s.place? = some (s.keeper.store, cell) := by rw [Site.place?, Accessor.cell?, hbody]; rfl
    rw [hconstruct] at hmake
    refine .get_bind ?_
    cases hcell : w.cell? s.keeper.store cell with
    | some id =>
      -- The instance was made before, and with it all that it comes to.
      have hfilled : w.Filled (s.keeper.store, cell) := World.filled_iff.mpr ⟨id, hcell⟩
      exact .pure ⟨hstocked, .refl fun t ht q hq => hstocked.filled_of_fills hs hk hplace hfilled ht hq⟩
    | none =>
      -- The cell stays empty while the instance is made, which then goes into it.
      refine hmake.bind (fun id w₂ hok => ?_) fun e w₂ hw₂ => ?_
      · obtain ⟨hsupplied, w₁, x, hfills, hadds⟩ := hok.2 id rfl
        have hempty := hfills.cell?_eq_none hs hk hplace hcell
        have hkept := hadds.kept hs hk hsupplied hplace hfills hempty
        have hchange : (Attempt.change (·.fill s.keeper.store cell id)).Ensures w₂ fun r w' =>
            r = .ok () ∧ w' = w₂.fill s.keeper.store cell id := .change ⟨rfl, rfl⟩
        refine hchange.bind (fun _ w₃ hw₃ => .pure (hw₃.2 ▸ hkept)) fun _ _ he => ?_
        cases he.1
      · obtain ⟨hstocked', hfills, hnot⟩ := hw₂.1 e rfl
        refine ⟨hstocked', hfills.congr fun t => ?_⟩
        rw [Site.fills_iff, or_iff_right fun h => hnot h.1]
  next implementation construct hbody =>
    have hconstruct : s.accessor.construct = construct := by rw [Accessor.construct, hbody]
    have hplace : s.place? = none := by rw [Site.place?, Accessor.cell?, hbody]; rfl
    rw [hconstruct] at hmake
    refine hmake.mono fun r w₂ hw₂ => ?_
    cases r with
    | ok id =>
      obtain ⟨-, w₁, x, hfills, hadds⟩ := hw₂.2 id rfl
      exact hadds.fresh hs hk hplace hfills
    | error e =>
      obtain ⟨hstocked', hfills, hnot⟩ := hw₂.1 e rfl
      refine ⟨hstocked', hfills.congr fun t => ?_⟩
      rw [Site.fills_iff, or_iff_right fun h => hnot h.1]

end

include hlaid in
/-- Deliveries with any bound fill the cells of what they come to. -/
theorem stocksDeliveries (depth : Nat) : StocksDeliveries reg home depth := by
  induction depth with
  | zero => exact stocksAnswers_zero.deliveries hlaid wiresAnswers_zero
  | succ depth ih => exact ih.answers.deliveries hlaid (wiresDeliveries hlaid depth).answers

include hlaid in
/-- A request fills the cells of what it comes to. -/
theorem Handle.Settled.stocked_get {h : Handle} (hh : h.Settled home) (hw : w.Wired home)
    (hstocked : w.Stocked reg home) (type : String) :
    (h.get type).Ensures w fun _ w' => w'.Stocked reg home ∧ w.FillsUp w' (h.Fills reg type) := by
  rw [Handle.get_eq]
  exact (stocksDeliveries hlaid h.services).answers h type w hh hw hstocked

end

end ServiceContainer
