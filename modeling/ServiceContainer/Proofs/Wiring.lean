import ServiceContainer.Proofs.Frame
import ServiceContainer.Proofs.Needs

/-!
# What instances are made from

Every instance of a run was made for a service, by the provider that has the service, and from instances that this
provider has for the keys of the parameters. So an instance is evidence that all that its service needs is registered,
and a request that finds no instance ends at the first type that is not. The induction is on the bound of nested
makings, and the invariant is about the instances as they lie there: each was made from older ones.

The types that the code of a service asks for are assumed to be the same on every making, whatever the answers are
(`Assembly.requests`).

## Main definitions

* `World.Has` — an instance is one that a handle has for a type
* `World.Wired` — the invariant
* `WiresDeliveries`, `WiresAnswers` — deliveries and requests with a bound keep it, and end as the registrations say

## Main statements

* `World.Wired.supplies` — an instance is evidence for what it needs
* `Handle.Settled.wired_get` — a request keeps the invariant, and how it ends
* `Stage.wired_run` — the invariant holds after every run
-/

namespace ServiceContainer

/-! ### The invariant -/

/-- The instances that an instance was made from: those that its parameters were given, and those that its code was
answered with. -/
def Instance.sources : Instance → List Nat
  | .built _ _ _ arguments answers => arguments.filterMap Given.source? ++ answers.filterMap id
  | .given _ _ => []

namespace World

/-- The instance is one of the service that a handle answers requests for the type with. -/
def Has (w : World) (h : Handle) (type : String) (id : Nat) : Prop := ∃ s, h.serving? type = some s ∧ s.Made w id

end World

/-- A parameter was given an instance that the provider has for its key, or the provider. -/
inductive Argument.GivenBy (w : World) (k : Keeper) : Argument → Given → Prop where
  | shared {key : TypeExpr} {id : Nat} (has : w.Has k.handle (k.assembly.typeName key) id) :
    GivenBy w k (.shared key) (.shared id)
  | cloned {key : TypeExpr} {id : Nat} (has : w.Has k.handle (k.assembly.typeName key) id) :
    GivenBy w k (.cloned key) (.cloned id)
  | provider : GivenBy w k .provider .provider

/-- The code asked for a type, and an answer is an instance that the provider has for it. -/
def AnsweredBy (w : World) (k : Keeper) (type : String) (answer : Option Nat) : Prop :=
  ∀ id, answer = some id → w.Has k.handle type id

/-- The instance was made for the service, by the provider that has the service and from what this provider has. -/
def Site.Assembles (s : Site) (w : World) (x : Instance) : Prop :=
  ∃ arguments answers,
    x = .built (s.keeper.assembly.typeName s.accessor.construct.implementation) s.keeper.handle s.accessor.construct
      arguments answers ∧
    List.Forall₂ (Argument.GivenBy w s.keeper) s.accessor.construct.arguments arguments ∧
    List.Forall₂ (AnsweredBy w s.keeper) (s.keeper.assembly.asked s.accessor.construct) answers

namespace World

/-- Every instance was made for a service from older instances, and every cell holds an instance of its service. -/
structure Wired (home : Nat → Option Keeper) (w : World) : Prop where
  assembled : ∀ (id : Nat) x, w.instances[id]? = some x →
    ∃ s : Site, s.Genuine ∧ s.keeper.Settled home ∧ s.Assembles w x
  older : ∀ (id : Nat) x, w.instances[id]? = some x → ∀ y ∈ x.sources, y < id
  filled : ∀ n c id, w.cell? n c = some id →
    ∃ s : Site, s.place? = some (n, c) ∧ s.Genuine ∧ s.keeper.Settled home ∧ s.Made w id

/-- Instances stay, and the world is wired. -/
structure Leads (home : Nat → Option Keeper) (w w' : World) : Prop where
  instances : w.instances <+: w'.instances
  wired : w'.Wired home

end World

section

variable {home home' : Nat → Option Keeper} {w w' w'' : World} {s : Site} {h : Handle} {k : Keeper} {type : String}
variable {id : Nat} {x : Instance}

theorem Site.Made.mono (hs : s.Made w id) (hw : w.instances <+: w'.instances) : s.Made w' id := by
  obtain ⟨more, hmore⟩ := hw
  obtain ⟨type, arguments, answers, hmade⟩ := hs
  refine ⟨type, arguments, answers, ?_⟩
  rw [← hmore, List.getElem?_append_left (List.getElem?_eq_some_iff.mp hmade).1, hmade]

theorem Site.Made.lt (hs : s.Made w id) : id < w.instances.length := by
  obtain ⟨type, arguments, answers, hmade⟩ := hs
  exact (List.getElem?_eq_some_iff.mp hmade).1

theorem World.Has.mono (hs : w.Has h type id) (hw : w.instances <+: w'.instances) : w'.Has h type id := by
  obtain ⟨s, hserving, hmade⟩ := hs
  exact ⟨s, hserving, hmade.mono hw⟩

theorem Argument.GivenBy.mono {argument : Argument} {g : Given} (hg : argument.GivenBy w k g)
    (hw : w.instances <+: w'.instances) : argument.GivenBy w' k g := by
  cases hg with
  | shared has => exact .shared (has.mono hw)
  | cloned has => exact .cloned (has.mono hw)
  | provider => exact .provider

theorem AnsweredBy.mono {answer : Option Nat} (ha : AnsweredBy w k type answer) (hw : w.instances <+: w'.instances) :
    AnsweredBy w' k type answer := fun id hid => (ha id hid).mono hw

theorem Site.Assembles.mono (hs : s.Assembles w x) (hw : w.instances <+: w'.instances) : s.Assembles w' x := by
  obtain ⟨arguments, answers, hx, hgiven, hanswered⟩ := hs
  exact ⟨arguments, answers, hx, hgiven.imp fun _ _ hg => hg.mono hw, hanswered.imp fun _ _ ha => ha.mono hw⟩

theorem Argument.GivenBy.rel {argument : Argument} {g : Given} (hg : argument.GivenBy w k g) :
    Option.Rel (fun key y => w.Has k.handle (k.assembly.typeName key) y) argument.key? g.source? := by
  cases hg with
  | shared has => exact .some has
  | cloned has => exact .some has
  | provider => exact .none

/-- The instances that parameters were given are instances of their keys. -/
theorem Argument.has_of_givenBy {arguments : List Argument} {gs : List Given}
    (hgiven : List.Forall₂ (Argument.GivenBy w k) arguments gs) :
    List.Forall₂ (fun key y => w.Has k.handle (k.assembly.typeName key) y) (arguments.filterMap Argument.key?)
      (gs.filterMap Given.source?) :=
  List.rel_filterMap (fun _ _ hg => hg.rel) hgiven

/-- What an instance was made from, its provider has. -/
theorem Site.Assembles.has (hs : s.Assembles w x) {y : Nat} (hy : y ∈ x.sources) :
    ∃ type, w.Has s.keeper.handle type y := by
  obtain ⟨arguments, answers, rfl, hgiven, hanswered⟩ := hs
  rcases List.mem_append.mp hy with hy | hy
  · obtain ⟨key, -, hhas⟩ := exists_rel_of_mem_right (Argument.has_of_givenBy hgiven) hy
    exact ⟨_, hhas⟩
  · obtain ⟨answer, hmem, hanswer⟩ := List.mem_filterMap.mp hy
    obtain ⟨type, -, hanswered⟩ := exists_rel_of_mem_right hanswered hmem
    exact ⟨type, hanswered y hanswer⟩

theorem World.Leads.refl (hw : w.Wired home) : w.Leads home w := ⟨List.prefix_refl _, hw⟩

theorem World.Leads.trans (h : w.Leads home w') (h' : w'.Leads home w'') : w.Leads home w'' :=
  ⟨h.instances.trans h'.instances, h'.wired⟩

namespace World.Wired

/-- A world is wired if its instances and cells are those of a wired one. -/
theorem congr (hw : w.Wired home) (hinstances : w'.instances = w.instances) (hcells : w'.cells = w.cells) :
    w'.Wired home := by
  have hgrows : w.instances <+: w'.instances := hinstances ▸ List.prefix_refl _
  refine ⟨fun id x hx => ?_, fun id x hx => ?_, fun n c id hc => ?_⟩
  · obtain ⟨s, hs, hsettled, hassembles⟩ := hw.assembled id x (hinstances ▸ hx)
    exact ⟨s, hs, hsettled, hassembles.mono hgrows⟩
  · exact hw.older id x (hinstances ▸ hx)
  · rw [World.cell?, hcells] at hc
    obtain ⟨s, hplace, hs, hsettled, hmade⟩ := hw.filled n c id hc
    exact ⟨s, hplace, hs, hsettled, hmade.mono hgrows⟩

theorem mono (hw : w.Wired home) (hhome : ∀ n l, home n = some l → home' n = some l) : w.Wired home' where
  assembled id x hx :=
    let ⟨s, hs, hsettled, hassembles⟩ := hw.assembled id x hx
    ⟨s, hs, hsettled.mono hhome, hassembles⟩
  older := hw.older
  filled n c id hc :=
    let ⟨s, hplace, hs, hsettled, hmade⟩ := hw.filled n c id hc
    ⟨s, hplace, hs, hsettled.mono hhome, hmade⟩

/-- A new instance for a service. -/
theorem create (hw : w.Wired home) (hs : s.Genuine) (hsettled : s.keeper.Settled home) (hx : s.Assembles w x) :
    w.Leads home (w.create x).2 := by
  have hgrows : w.instances <+: (w.create x).2.instances := List.prefix_append _ _
  -- What the new instance was made from was there before it.
  have hsources : ∀ y ∈ x.sources, y < w.instances.length := by
    intro y hy
    obtain ⟨type, t, -, hmade⟩ := hx.has hy
    exact hmade.lt
  have hcases {id : Nat} {z : Instance} (hz : (w.create x).2.instances[id]? = some z) :
      w.instances[id]? = some z ∨ id = w.instances.length ∧ z = x := by
    rw [World.create, List.getElem?_append] at hz
    split at hz
    · exact .inl hz
    · rw [List.getElem?_singleton, Option.ite_none_right_eq_some] at hz
      exact .inr ⟨by omega, (Option.some.inj hz.2).symm⟩
  refine ⟨hgrows, fun id z hz => ?_, fun id z hz => ?_, fun n c id hc => ?_⟩
  · rcases hcases hz with hz | ⟨-, rfl⟩
    · obtain ⟨t, ht, htsettled, hassembles⟩ := hw.assembled id z hz
      exact ⟨t, ht, htsettled, hassembles.mono hgrows⟩
    · exact ⟨s, hs, hsettled, hx.mono hgrows⟩
  · rcases hcases hz with hz | ⟨rfl, rfl⟩
    · exact hw.older id z hz
    · exact hsources
  · obtain ⟨t, hplace, ht, htsettled, hmade⟩ := hw.filled n c id hc
    exact ⟨t, hplace, ht, htsettled, hmade.mono hgrows⟩

/-- An instance of a service may be put in its cell. -/
theorem fill (hw : w.Wired home) (hs : s.Genuine) (hsettled : s.keeper.Settled home) (hmade : s.Made w id) {n : Nat}
    {c : String} (hplace : s.place? = some (n, c)) : w.Leads home (w.fill n c id) := by
  have hsame : (w.fill n c id).instances = w.instances := rfl
  refine ⟨List.prefix_refl _, fun y x hx => ?_, hw.older, fun m d y hy => ?_⟩
  · obtain ⟨t, ht, htsettled, hassembles⟩ := hw.assembled y x hx
    exact ⟨t, ht, htsettled, hassembles.mono (List.prefix_refl _)⟩
  rw [cell?_fill] at hy
  cases hold : w.cell? m d with
  | some z =>
    rw [hold, Option.some_or] at hy
    exact hw.filled m d y (hold.trans hy)
  | none =>
    rw [hold, Option.none_or, Option.ite_none_right_eq_some] at hy
    obtain ⟨⟨rfl, rfl⟩, hid⟩ := hy
    exact ⟨s, hplace, hs, hsettled, Option.some.inj hid ▸ hmade⟩

/-- An instance in the cell of a service was made for the service. -/
theorem made_of_cell? (hw : w.Wired home) (hs : s.Genuine) (hsettled : s.keeper.Settled home) {n : Nat} {c : String}
    (hplace : s.place? = some (n, c)) (hc : w.cell? n c = some id) : s.Made w id := by
  obtain ⟨t, htplace, ht, htsettled, hmade⟩ := hw.filled n c id hc
  rwa [Site.eq_of_place? hs hsettled ht htsettled hplace htplace]

variable {reg : Assembly → List Registration}

/-- An instance is evidence that all that its service needs is registered. -/
theorem supplies (hw : w.Wired home) (hlaid : ∀ n k, home n = some k → k.assembly.LaidOut (reg k.assembly))
    (hsettled : s.keeper.Settled home) (hmade : s.Made w id) : s.keeper.Supplies reg s.keys := by
  -- The induction is on the number of the instance, since what it was made from is older.
  induction id using Nat.strong_induction_on generalizing s with
  | _ id ih =>
    obtain ⟨type, arguments, answers, hinstance⟩ := hmade
    obtain ⟨t, -, -, _, _, heq, hgiven, -⟩ := hw.assembled id _ hinstance
    obtain ⟨-, hhandle, hconstruct, rfl, rfl⟩ := Instance.built.inj heq
    have hsources := hw.older id _ hinstance
    rw [← Keeper.handle_injective hhandle, ← hconstruct] at hgiven
    refine Keeper.supplies_iff.mpr fun key hkey => ?_
    obtain ⟨y, hy, hhas⟩ := exists_rel_of_mem_right (Argument.has_of_givenBy hgiven).flip hkey
    obtain ⟨u, hserving, hmade⟩ := hhas
    rw [Keeper.serving?_handle] at hserving
    have holder : y < id := hsources y (List.mem_append_left _ hy)
    exact Keeper.exists_supplies (hlaid _ _ hsettled.own) hserving (ih y holder (hsettled.of_serving? hserving).2 hmade)

end World.Wired

end

/-! ### How requests end -/

/-- How a delivery of a service ends: with an instance of it, or for the first type that it lacks. -/
def Site.EndsIn (reg : Assembly → List Registration) (s : Site) (w : World) : Except DependencyError Nat → Prop
  | .ok id => s.Made w id
  | .error e => ∃ missing, s.keeper.FirstMissing reg missing s.keys ∧ e = .notRegistered missing

/-- How a request ends: with an instance of the service that answers it, without one where no service does, or as the
delivery of the service. -/
def Handle.EndsIn (reg : Assembly → List Registration) (h : Handle) (type : String) (w : World) :
    Except DependencyError (Option Nat) → Prop
  | .ok (some id) => w.Has h type id
  | .ok none => h.serving? type = none
  | .error e => ∃ s, h.serving? type = some s ∧ s.EndsIn reg w (.error e)

/-- Deliveries with the bound keep a world wired and end as the registrations say. -/
def WiresDeliveries (reg : Assembly → List Registration) (home : Nat → Option Keeper) (depth : Nat) : Prop :=
  ∀ (s : Site) (w : World), s.Genuine → s.keeper.Settled home → w.Wired home →
    (s.deliver depth).Ensures w fun r w' => w.Leads home w' ∧ s.EndsIn reg w' r

/-- Requests with the bound keep a world wired and end as the registrations say. -/
def WiresAnswers (reg : Assembly → List Registration) (home : Nat → Option Keeper) (depth : Nat) : Prop :=
  ∀ (h : Handle) (type : String) (w : World), h.Settled home → w.Wired home →
    (Asker.get (ask depth) h type).Ensures w fun r w' => w.Leads home w' ∧ h.EndsIn reg type w' r

section

variable {reg : Assembly → List Registration} {home : Nat → Option Keeper} {depth : Nat} {k : Keeper} {w : World}

theorem WiresDeliveries.answers (hd : WiresDeliveries reg home depth) : WiresAnswers reg home (depth + 1) := by
  intro h type w hh hw
  rw [get_ask_eq hh.1]
  cases hs : h.serving? type with
  | none => exact .pure ⟨.refl hw, hs⟩
  | some s =>
    obtain ⟨hgenuine, hsettled⟩ := hh.of_serving? hs
    refine .map ((hd s w hgenuine hsettled hw).mono fun r w' ⟨hleads, hends⟩ => ⟨hleads, ?_⟩)
    cases r with
    | ok id => exact ⟨s, hs, hends⟩
    | error e => exact ⟨s, hs, hends⟩

theorem wiresAnswers_zero : WiresAnswers reg home 0 := by
  intro h type w _ _
  have hnever : (ask 0 h type).Ensures w fun _ _ => False := .endless
  exact hnever.bind (fun _ _ h => h.elim) fun _ _ h => h.elim

variable (hlaid : ∀ n k, home n = some k → k.assembly.LaidOut (reg k.assembly))

include hlaid in
/-- A key that must be there is given, or something is missing for it, whatever else is needed after it. -/
theorem WiresAnswers.require (ha : WiresAnswers reg home depth) (hk : k.Settled home) (hw : w.Wired home)
    (key : TypeExpr) :
    (Asker.require (ask depth) k.handle (k.assembly.typeName key)).Ensures w fun r w' => w.Leads home w' ∧
      match r with
      | .ok id => w'.Has k.handle (k.assembly.typeName key) id
      | .error e => ∃ missing, (∀ rest, k.FirstMissing reg missing (key :: rest)) ∧ e = .notRegistered missing := by
  have hlaidk := hlaid _ _ hk.own
  refine (ha k.handle _ w hk.handle hw).bind (fun answer w' ⟨hleads, hends⟩ => ?_) fun e w' ⟨hleads, hends⟩ => ?_
  · cases answer with
    | some id => exact .pure ⟨hleads, hends⟩
    | none =>
      have hserving : k.serving? (k.assembly.typeName key) = none := by rwa [← Keeper.serving?_handle]
      exact .throw ⟨hleads, _, fun rest => .unregistered rfl ((Keeper.registration?_eq_none hlaidk).mpr hserving), rfl⟩
  · obtain ⟨s, hserving, missing, hmissing, rfl⟩ := hends
    rw [Keeper.serving?_handle] at hserving
    obtain ⟨r, hregistered, -, hkeys⟩ := Keeper.registration?_of_serving? hlaidk hserving
    exact ⟨hleads, missing, fun rest => .within hregistered (hkeys ▸ hmissing), rfl⟩

include hlaid in
theorem WiresAnswers.give (ha : WiresAnswers reg home depth) (hk : k.Settled home) (hw : w.Wired home)
    (argument : Argument) :
    (argument.give (ask depth) k.handle k.assembly).Ensures w fun r w' => w.Leads home w' ∧
      match r with
      | .ok g => argument.GivenBy w' k g
      | .error e => ∃ missing, (∀ rest, k.FirstMissing reg missing ((argument :: rest).filterMap Argument.key?)) ∧
          e = .notRegistered missing := by
  cases argument with
  | provider => exact .pure ⟨.refl hw, .provider⟩
  | shared key =>
    refine (ha.require hlaid hk hw key).bind (fun id w' ⟨hleads, hhas⟩ => .pure ⟨hleads, .shared hhas⟩) ?_
    exact fun e w' ⟨hleads, missing, hmissing, he⟩ => ⟨hleads, missing, fun rest => hmissing _, he⟩
  | cloned key =>
    refine (ha.require hlaid hk hw key).bind (fun id w' ⟨hleads, hhas⟩ => .pure ⟨hleads, .cloned hhas⟩) ?_
    exact fun e w' ⟨hleads, missing, hmissing, he⟩ => ⟨hleads, missing, fun rest => hmissing _, he⟩

include hlaid in
/-- What is missing for further parameters is missing after one that was given. -/
theorem Keeper.FirstMissing.after_given (hk : k.Settled home) (hw : w.Wired home) {argument : Argument} {g : Given}
    (hg : argument.GivenBy w k g) {rest : List Argument} {missing : String}
    (hrest : k.FirstMissing reg missing (rest.filterMap Argument.key?)) :
    k.FirstMissing reg missing ((argument :: rest).filterMap Argument.key?) := by
  have hsupplied {key : TypeExpr} {id : Nat} (hhas : w.Has k.handle (k.assembly.typeName key) id) :
      k.FirstMissing reg missing (key :: rest.filterMap Argument.key?) := by
    obtain ⟨s, hserving, hmade⟩ := hhas
    rw [Keeper.serving?_handle] at hserving
    obtain ⟨owner, r, hregistered, hneeds⟩ := Keeper.exists_supplies (hlaid _ _ hk.own) hserving
      (hw.supplies hlaid (hk.of_serving? hserving).2 hmade)
    exact .later hregistered hneeds hrest
  cases hg with
  | shared has => exact hsupplied has
  | cloned has => exact hsupplied has
  | provider => exact hrest

include hlaid in
theorem WiresAnswers.giveAll (ha : WiresAnswers reg home depth) (hk : k.Settled home) (hw : w.Wired home)
    (arguments : List Argument) :
    (arguments.mapM (Argument.give (ask depth) k.handle k.assembly)).Ensures w fun r w' => w.Leads home w' ∧
      match r with
      | .ok gs => List.Forall₂ (Argument.GivenBy w' k) arguments gs
      | .error e => ∃ missing, k.FirstMissing reg missing (arguments.filterMap Argument.key?) ∧
          e = .notRegistered missing := by
  induction arguments generalizing w with
  | nil =>
    rw [List.mapM_nil]
    exact .pure ⟨.refl hw, .nil⟩
  | cons argument rest ih =>
    rw [List.mapM_cons]
    refine (ha.give hlaid hk hw argument).bind (fun g w₁ ⟨hleads, hg⟩ => ?_)
      fun e w₁ ⟨hleads, missing, hmissing, he⟩ => ⟨hleads, missing, hmissing rest, he⟩
    refine (ih hleads.wired).bind (fun gs w₂ ⟨hleads', hgs⟩ => .pure ?_) fun e w₂ ⟨hleads', missing, hmissing, he⟩ => ?_
    · exact ⟨hleads.trans hleads', .cons (hg.mono hleads'.instances) hgs⟩
    -- The first parameter was given, so what is missing for the rest is missing for all.
    · exact ⟨hleads.trans hleads', missing, .after_given hlaid hk hleads.wired hg hmissing, he⟩

theorem WiresAnswers.answersTo (ha : WiresAnswers reg home depth) (hk : k.Settled home) (hw : w.Wired home)
    (types : List String) :
    (answersTo (ask depth) k.handle types).Ensures w fun r w' => w.Leads home w' ∧
      ∃ answers, r = .ok answers ∧ List.Forall₂ (AnsweredBy w' k) types answers := by
  induction types generalizing w with
  | nil => exact .pure ⟨.refl hw, [], rfl, .nil⟩
  | cons type rest ih =>
    have hobserve : (Asker.get (ask depth) k.handle type).observe.Ensures w fun r w' =>
        ∃ x, r = .ok x ∧ w.Leads home w' ∧ k.handle.EndsIn reg type w' x :=
      .observe ((ha k.handle type w hk.handle hw).mono fun r w' hends => ⟨r, rfl, hends⟩)
    refine hobserve.bind (fun x w₁ hx => ?_) fun _ _ ⟨_, he, _⟩ => nomatch he
    obtain ⟨_, hok, hleads, hends⟩ := hx
    obtain rfl := Except.ok.inj hok
    have hanswered : AnsweredBy w₁ k type x.toOption.join := by
      -- A refusal is an answer like any other, and is no instance.
      intro id hid
      rcases x with _ | _ | _
      · exact nomatch hid
      · exact nomatch hid
      · exact Option.some.inj hid ▸ hends
    refine (ih hleads.wired).bind (fun answers w₂ hanswers => .pure ?_) fun _ _ ⟨_, _, he, _⟩ => nomatch he
    obtain ⟨hleads', _, hok', hrest⟩ := hanswers
    obtain rfl := Except.ok.inj hok'
    exact ⟨hleads.trans hleads', _, rfl, .cons (hanswered.mono hleads'.instances) hrest⟩

include hlaid in
theorem WiresAnswers.make (ha : WiresAnswers reg home depth) {s : Site} (hs : s.Genuine) (hk : s.keeper.Settled home)
    (hw : w.Wired home) :
    (s.keeper.assembly.make (ask depth) s.keeper.handle s.accessor.construct).Ensures w fun r w' =>
      w.Leads home w' ∧ s.EndsIn reg w' r := by
  refine (ha.giveAll hlaid hk hw s.accessor.construct.arguments).bind (fun gs w₁ ⟨hleads₁, hgs⟩ => ?_)
    fun e w₁ hends => hends
  refine (ha.answersTo hk hleads₁.wired (s.keeper.assembly.asked s.accessor.construct)).bind
    (fun answers w₂ hanswers => .changeGet ?_) fun e w₂ ⟨_, _, he, _⟩ => nomatch he
  obtain ⟨hleads₂, _, hok, hanswered⟩ := hanswers
  obtain rfl := Except.ok.inj hok
  -- What the parameters were given stays while the code is answered, and the answers are there already.
  have hassembles : s.Assembles w₂ (.built (s.keeper.assembly.typeName s.accessor.construct.implementation)
      s.keeper.handle s.accessor.construct gs answers) :=
    ⟨gs, answers, rfl, hgs.imp fun _ _ hg => hg.mono hleads₂.instances, hanswered⟩
  refine ⟨(hleads₁.trans hleads₂).trans (hleads₂.wired.create hs hk hassembles),
    s.keeper.assembly.typeName s.accessor.construct.implementation, gs, answers, ?_⟩
  rw [World.create, List.getElem?_concat_length]

include hlaid in
theorem WiresAnswers.deliveries (ha : WiresAnswers reg home depth) : WiresDeliveries reg home depth := by
  intro s w hs hk hw
  have hmake := ha.make hlaid hs hk hw
  rw [Site.deliver, Accessor.deliver]
  split
  next cell implementation construct hbody =>
    have hconstruct : s.accessor.construct = construct := by rw [Accessor.construct, hbody]
    have hplace : s.place? = some (s.keeper.store, cell) := by rw [Site.place?, Accessor.cell?, hbody]; rfl
    rw [hconstruct] at hmake
    refine .get_bind ?_
    cases hcell : w.cell? s.keeper.store cell with
    | some id =>
      -- Whoever filled the cell did so for this service.
      exact .pure ⟨.refl hw, hw.made_of_cell? hs hk hplace hcell⟩
    | none =>
      refine hmake.bind (fun id w₁ hends => ?_) fun e w₁ hends => hends
      obtain ⟨hleads, hmade⟩ := hends
      have hchange : (Attempt.change (·.fill s.keeper.store cell id)).Ensures w₁ fun r w' =>
          r = .ok () ∧ w' = w₁.fill s.keeper.store cell id := .change ⟨rfl, rfl⟩
      refine hchange.bind (fun _ w₂ hw₂ => .pure ?_) ?_
      · rw [hw₂.2]
        exact ⟨hleads.trans (hleads.wired.fill hs hk hmade hplace), hmade⟩
      · rintro e w₂ ⟨herror, -⟩
        cases herror
  next implementation construct hbody =>
    have hconstruct : s.accessor.construct = construct := by rw [Accessor.construct, hbody]
    rwa [hconstruct] at hmake

include hlaid in
/-- Deliveries with any bound keep a world wired and end as the registrations say. -/
theorem wiresDeliveries (depth : Nat) : WiresDeliveries reg home depth := by
  induction depth with
  | zero => exact wiresAnswers_zero.deliveries hlaid
  | succ depth ih => exact ih.answers.deliveries hlaid

include hlaid in
/-- A request keeps a world wired and ends as the registrations say. -/
theorem Handle.Settled.wired_get {h : Handle} (hh : h.Settled home) (hw : w.Wired home) (type : String) :
    (h.get type).Ensures w fun r w' => w.Leads home w' ∧ h.EndsIn reg type w' r := by
  rw [Handle.get_eq]
  exact (wiresDeliveries hlaid h.services).answers h type w hh hw

include hlaid in
theorem Handle.Settled.wired_require {h : Handle} (hh : h.Settled home) (hw : w.Wired home) (type : String) :
    (h.require type).Ensures w fun _ w' => w.Leads home w' := by
  rw [Handle.require_eq]
  refine ((wiresDeliveries hlaid h.services).answers h type w hh hw).bind (fun answer w' ⟨hleads, _⟩ => ?_)
    fun _ _ hends => hends.1
  cases answer with
  | some id => exact .pure hleads
  | none => exact .throw hleads

end

/-! ### Runs -/

namespace Stage

section

variable {reg : Assembly → List Registration} {c : Census} {s : Stage} {held : List Receipt} {t : Step}

theorem request_wired {home : Nat → Option Keeper} {attempt : Attempt (Option Nat)} (hw : s.world.Wired home)
    (hattempt : attempt.Ensures s.world fun _ w' => s.world.Leads home w') :
    (s.request attempt).1.world.Wired home := by
  rw [request]
  split
  next r w' hrun => exact (hattempt r w' hrun).wired
  next => exact hw

/-- A step keeps the world wired. -/
theorem Valid.perform_wired (hs : s.Valid c held) (hw : s.world.Wired c.home)
    (hlaid : ∀ n k, c.home n = some k → k.assembly.LaidOut (reg k.assembly)) (t : Step) :
    (s.perform t).1.world.Wired c.home := by
  have hsettled {name : String} {h : Handle} (hh : s.handle? name = some h) : h.Settled c.home :=
    (hs.regular _ (handle?_eq_some hh)).settled
  by_cases ht : t.IsRequest
  · cases t with
    | get source type =>
      cases hh : s.handle? source with
      | some h =>
        rw [perform_get hh]
        exact request_wired hw (((hsettled hh).wired_get hlaid hw type).mono fun _ _ hends => hends.1)
      | none =>
        rw [Stage.perform, onHandle, hh]
        exact hw
    | require source type =>
      cases hh : s.handle? source with
      | some h =>
        rw [perform_require hh]
        exact request_wired hw (.map ((hsettled hh).wired_require hlaid hw type))
      | none =>
        rw [Stage.perform, onHandle, hh]
        exact hw
    | _ => exact ht.elim
  · have hkeeps := s.perform_keeps ht
    exact hw.congr hkeeps.instances hkeeps.cells

theorem wired_empty : ({} : Stage).world.Wired Census.empty.home := by
  refine ⟨?_, ?_, ?_⟩ <;> simp [World.cell?]

/-- A run ends on a valid stage with a wired world. -/
theorem Valid.wired_run (hs : s.Valid c held) (hw : s.world.Wired c.home)
    (hc : c.Admits fun a => a.LaidOut (reg a) ∧ a.Acyclic) {steps : List Step}
    (hsteps : ∀ t ∈ steps, t.Operates fun a => a.LaidOut (reg a) ∧ a.Acyclic) :
    ∃ c' held', c'.Admits (fun a => a.LaidOut (reg a) ∧ a.Acyclic) ∧ (s.run steps).Valid c' held' ∧
      (s.run steps).world.Wired c'.home := by
  induction steps generalizing c s held with
  | nil => exact ⟨c, held, hc, hs, hw⟩
  | cons t rest ih =>
    have ht := hsteps t List.mem_cons_self
    obtain ⟨c₁, E, L, hstep⟩ := hs.perform (ht.mono fun a ha => ⟨⟨_, ha.1⟩, ha.2⟩)
    have hwired := hs.perform_wired hw (fun n k hk => (hc n k hk).1) t
    exact ih hstep.valid (hwired.mono hstep.extension.home) (hstep.admits _ ht hc) fun u hu =>
      hsteps u (List.mem_cons_of_mem t hu)

/-- What holds after a run from nothing: the handles are settled, and the world is wired. -/
theorem wired_run {steps : List Step} (hsteps : ∀ t ∈ steps, t.Operates fun a => a.LaidOut (reg a) ∧ a.Acyclic) :
    ∃ c : Census, ∃ held, (∀ n k, c.home n = some k → k.assembly.LaidOut (reg k.assembly)) ∧
      (({} : Stage).run steps).Valid c held ∧ (({} : Stage).run steps).world.Wired c.home := by
  obtain ⟨c, held, hadmits, hvalid, hwired⟩ := valid_empty.wired_run wired_empty (fun _ _ h => nomatch h) hsteps
  exact ⟨c, held, fun n k hk => (hadmits n k hk).1, hvalid, hwired⟩

end

end Stage

end ServiceContainer
