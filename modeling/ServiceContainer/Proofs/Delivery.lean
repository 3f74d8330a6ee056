import ServiceContainer.Proofs.Receipts

/-!
# Deliveries keep a world sound

The induction is on the bound of nested makings: a delivery makes an instance at most, which makes requests to the same
provider, which are deliveries with a smaller bound. Every part of it is given the receipts that are held outside and
adds its own, so that a receipt is accounted for from the moment the instance is handed over.

## Main definitions

* `Delivers`, `Answers` — deliveries and requests with a bound keep a world sound

## Main statements

* `delivers` — deliveries with any bound do
* `get_ensures` — a request changes a sound world into a sound one, with the receipt of its answer
-/

namespace ServiceContainer

open Relation

variable {home : Nat → Option Keeper} {depth : Nat}

/-! ### Requests -/

/-- The receipt of an answer, if there was one. -/
def Handle.received (h : Handle) (type : String) (answer : Option Nat) : List Receipt :=
  answer.toList.map (⟨h, type, ·⟩)

/-- Deliveries with the bound keep a world sound. -/
def Delivers (home : Nat → Option Keeper) (depth : Nat) : Prop :=
  ∀ (h : Handle) (type : String) (s : Site) (w : World) (held : List Receipt), h.Settled home →
    h.serving? type = some s → w.Sound home (held ++ w.receipts) →
    (s.deliver depth).Ensures w fun r w' => w.Grows w' (ReflTransGen Site.Needs s) ∧
      w'.Sound home (h.received type r.toOption ++ (held ++ w'.receipts))

/-- Requests with the bound keep a world sound. -/
def Answers (home : Nat → Option Keeper) (depth : Nat) : Prop :=
  ∀ (h : Handle) (type : String) (w : World) (held : List Receipt), h.Settled home →
    w.Sound home (held ++ w.receipts) →
    (Asker.get (ask depth) h type).Ensures w fun r w' => w.Grows w' (h.Reaches type) ∧
      w'.Sound home (h.received type r.toOption.join ++ (held ++ w'.receipts))

theorem get_ask_eq {h : Handle} (hplain : h.Plain) (depth : Nat) (type : String) :
    Asker.get (ask (depth + 1)) h type =
      match h.serving? type with
      | some s => some <$> s.deliver depth
      | none => pure none := by
  rw [Asker.get, ask_eq hplain]
  cases h.serving? type with
  | none => simp [deliverAt]
  | some s => simp [deliverAt, Delivery.unwrap]

theorem Delivers.answers (hd : Delivers home depth) : Answers home (depth + 1) := by
  intro h type w held hh hw
  rw [get_ask_eq hh.1]
  cases hs : h.serving? type with
  | none => exact .pure ⟨.refl w _, hw⟩
  | some s =>
    refine .map ((hd h type s w held hh hs hw).mono fun r w' ⟨hgrows, hsound⟩ => ?_)
    refine ⟨hgrows.mono fun t ht => ⟨s, hs, ht⟩, ?_⟩
    cases r <;> exact hsound

theorem answers_zero : Answers home 0 := by
  intro h type w held _ _
  have hnever : (ask 0 h type).Ensures w fun _ _ => False := .endless
  exact hnever.bind (fun _ _ h => h.elim) fun _ _ h => h.elim

theorem Answers.require (ha : Answers home depth) {h : Handle} {w : World} {held : List Receipt} (type : String)
    (hh : h.Settled home) (hw : w.Sound home (held ++ w.receipts)) :
    (Asker.require (ask depth) h type).Ensures w fun r w' => w.Grows w' (h.Reaches type) ∧
      w'.Sound home (h.received type r.toOption ++ (held ++ w'.receipts)) := by
  refine (ha h type w held hh hw).bind (fun answer w' hw' => ?_) fun _ _ hw' => hw'
  cases answer with
  | some id => exact .pure hw'
  | none => exact .throw hw'

/-! ### Making -/

section

variable {k : Keeper} {w : World} {held : List Receipt} {services : Site → Prop}

/-- The receipt for what was given to a parameter, if it was given anything. -/
def Argument.received (k : Keeper) (argument : Argument) (r : Except DependencyError Given) : List Receipt :=
  (r.toOption.bind (argument.receipt? k)).toList

theorem Answers.give (ha : Answers home depth) (hk : k.Settled home) (argument : Argument)
    (hwants : ∀ type, k.assembly.argumentType? argument = some type → ∀ t, k.handle.Reaches type t → services t)
    (hw : w.Sound home (held ++ w.receipts)) :
    (argument.give (ask depth) k.handle k.assembly).Ensures w fun r w' => w.Grows w' services ∧
      w'.Sound home (argument.received k r ++ (held ++ w'.receipts)) := by
  cases argument with
  | provider => exact .pure ⟨.refl w _, hw⟩
  | shared key | cloned key =>
    have hrequire := ha.require (k.assembly.typeName key) hk.handle hw
    refine hrequire.bind (fun id w' hw' => .pure ?_) fun e w' hw' => ?_
    · exact ⟨hw'.1.mono (hwants _ rfl), hw'.2⟩
    · exact ⟨hw'.1.mono (hwants _ rfl), hw'.2⟩

theorem Keeper.argumentReceipts_cons (k : Keeper) (argument : Argument) (arguments : List Argument) (g : Given)
    (gs : List Given) : k.argumentReceipts (argument :: arguments) (g :: gs) =
      (argument.receipt? k g).toList ++ k.argumentReceipts arguments gs := by
  rw [Keeper.argumentReceipts, List.zip_cons_cons, List.filterMap_cons, Keeper.argumentReceipts]
  cases argument.receipt? k g <;> rfl

/-- The receipts for parameters, if all were given. -/
def Keeper.argumentsReceived (k : Keeper) (arguments : List Argument) (r : Except DependencyError (List Given)) :
    List Receipt :=
  match r with
  | .ok gs => k.argumentReceipts arguments gs
  | .error _ => []

theorem Answers.giveAll (ha : Answers home depth) (hk : k.Settled home) (arguments : List Argument)
    (hwants : ∀ type ∈ arguments.filterMap k.assembly.argumentType?, ∀ t, k.handle.Reaches type t → services t)
    (hw : w.Sound home (held ++ w.receipts)) :
    (arguments.mapM (Argument.give (ask depth) k.handle k.assembly)).Ensures w fun r w' => w.Grows w' services ∧
      w'.Sound home (k.argumentsReceived arguments r ++ (held ++ w'.receipts)) := by
  induction arguments generalizing w held with
  | nil =>
    rw [List.mapM_nil]
    exact .pure ⟨.refl w _, hw⟩
  | cons argument rest ih =>
    rw [List.mapM_cons]
    have hfirst := ha.give hk argument (fun type htype => hwants type (List.mem_filterMap.mpr
      ⟨argument, List.mem_cons_self, htype⟩)) hw
    have hmore : ∀ type ∈ rest.filterMap k.assembly.argumentType?, ∀ t, k.handle.Reaches type t → services t := by
      intro type htype
      obtain ⟨x, hx, hxtype⟩ := List.mem_filterMap.mp htype
      exact hwants type (List.mem_filterMap.mpr ⟨x, List.mem_cons_of_mem argument hx, hxtype⟩)
    refine hfirst.bind (fun g w₁ ⟨hgrows, hsound⟩ => ?_) fun _ _ hw' => hw'
    -- The receipt of the first parameter is held while the others are given.
    rw [← List.append_assoc] at hsound
    refine (ih hmore hsound).bind (fun gs w₂ ⟨hgrows', hsound'⟩ => .pure ?_) fun e w₂ ⟨hgrows', hsound'⟩ => ?_
    · refine ⟨hgrows.trans hgrows', ?_⟩
      rw [Keeper.argumentsReceived, Keeper.argumentReceipts_cons]
      refine hsound'.perm ?_
      rw [List.append_assoc, List.append_assoc]
      exact List.perm_append_comm_assoc _ _ _
    · refine ⟨hgrows.trans hgrows', hsound'.sublist ?_⟩
      rw [List.append_assoc]
      exact List.sublist_append_right _ _

theorem Keeper.answerReceipts_cons (k : Keeper) (type : String) (types : List String) (answer : Option Nat)
    (answers : List (Option Nat)) : k.answerReceipts (type :: types) (answer :: answers) =
      k.handle.received type answer ++ k.answerReceipts types answers := by
  rw [Keeper.answerReceipts, List.zip_cons_cons, List.filterMap_cons, Keeper.answerReceipts]
  cases answer <;> rfl

/-- The code of a service is answered whatever the answers are. -/
theorem Answers.answersTo (ha : Answers home depth) (hk : k.Settled home) (types : List String)
    (hwants : ∀ type ∈ types, ∀ t, k.handle.Reaches type t → services t)
    (hw : w.Sound home (held ++ w.receipts)) :
    (answersTo (ask depth) k.handle types).Ensures w fun r w' => w.Grows w' services ∧
      ∃ answers, r = .ok answers ∧ w'.Sound home (k.answerReceipts types answers ++ (held ++ w'.receipts)) := by
  induction types generalizing w held with
  | nil => exact .pure ⟨.refl w _, [], rfl, hw⟩
  | cons type rest ih =>
    have hobserve : (Asker.get (ask depth) k.handle type).observe.Ensures w fun r w' =>
        ∃ x, r = .ok x ∧ w.Grows w' services ∧
          w'.Sound home (k.handle.received type x.toOption.join ++ (held ++ w'.receipts)) :=
      .observe ((ha k.handle type w held hk.handle hw).mono fun r w' ⟨hgrows, hsound⟩ =>
        ⟨r, rfl, hgrows.mono (hwants type List.mem_cons_self), hsound⟩)
    refine hobserve.bind (fun x w₁ hx => ?_) fun _ _ ⟨_, he, _⟩ => nomatch he
    obtain ⟨_, hok, hgrows, hsound⟩ := hx
    -- A refusal is an answer like any other, and leaves no receipt.
    rw [← Except.ok.inj hok] at hsound
    rw [← List.append_assoc] at hsound
    refine (ih (fun t ht => hwants t (List.mem_cons_of_mem type ht)) hsound).bind
      (fun answers w₂ hanswers => .pure ?_) fun _ _ ⟨_, _, he, _⟩ => nomatch he
    obtain ⟨hgrows', _, hok', hsound'⟩ := hanswers
    rw [← Except.ok.inj hok'] at hsound'
    refine ⟨hgrows.trans hgrows', _, rfl, ?_⟩
    rw [Keeper.answerReceipts_cons]
    refine hsound'.perm ?_
    rw [List.append_assoc, List.append_assoc]
    exact List.perm_append_comm_assoc _ _ _

theorem World.receipts_create (w : World) (y : Instance) : (w.create y).2.receipts = w.receipts ++ y.receipts := by
  rw [World.receipts, World.create, List.flatMap_append, List.flatMap_singleton]
  rfl

theorem Keeper.receipts_built (k : Keeper) (type : String) (construct : Construct) (arguments : List Given)
    (answers : List (Option Nat)) :
    (Instance.built type k.handle construct arguments answers).receipts = k.receipts construct arguments answers := by
  rw [Instance.receipts, Keeper.keepers_handle, List.flatMap_singleton]

/-- An instance that is made for a service is nobody's, and only services that this one needs have filled cells. -/
theorem Answers.make (ha : Answers home depth) {s : Site} (hs : s.keeper.Settled home)
    (hw : w.Sound home (held ++ w.receipts)) :
    (s.keeper.assembly.make (ask depth) s.keeper.handle s.accessor.construct).Ensures w fun r w' =>
      w.Grows w' (TransGen Site.Needs s) ∧ w'.Sound home (held ++ w'.receipts) ∧
        ∀ id, r = .ok id → s.Made w' id ∧ w'.Unclaimed (held ++ w'.receipts) id := by
  have hneeds {type : String} (htype : type ∈ s.keeper.assembly.wants s.accessor.construct) (t : Site)
      (ht : s.keeper.handle.Reaches type t) : TransGen Site.Needs s t := ht.transGen htype
  refine (ha.giveAll hs s.accessor.construct.arguments
    (fun type htype => hneeds (List.mem_append_left _ htype)) hw).bind
    (fun gs w₁ ⟨hgrows₁, hsound₁⟩ => ?_) fun e w₁ ⟨hgrows₁, hsound₁⟩ => ⟨hgrows₁, hsound₁, fun _ h => nomatch h⟩
  rw [← List.append_assoc] at hsound₁
  refine (ha.answersTo hs (s.keeper.assembly.asked s.accessor.construct)
    (fun type htype => hneeds (List.mem_append_right _ htype)) hsound₁).bind
    (fun answers w₂ hanswers => ?_) fun e w₂ ⟨_, _, he, _⟩ => nomatch he
  obtain ⟨hgrows₂, _, hok, hsound₂⟩ := hanswers
  obtain rfl := Except.ok.inj hok
  refine .changeGet ?_
  generalize s.keeper.assembly.typeName s.accessor.construct.implementation = type
  generalize hy : Instance.built type s.keeper.handle s.accessor.construct gs answers = y
  -- The receipts that were held for the instance become its own.
  have hperm : (s.keeper.answerReceipts (s.keeper.assembly.asked s.accessor.construct) answers ++
      (s.keeper.argumentReceipts s.accessor.construct.arguments gs ++ held ++ w₂.receipts)).Perm
      (held ++ (w₂.create y).2.receipts) := by
    rw [World.receipts_create, ← hy, Keeper.receipts_built, Keeper.receipts]
    refine List.perm_append_comm.trans ?_
    rw [List.append_assoc, List.append_assoc]
    exact List.perm_append_comm_assoc _ _ _ |>.trans ((List.perm_append_comm_assoc _ _ _).append_left _)
  refine ⟨(hgrows₁.trans hgrows₂).trans (World.grows_create y), (hsound₂.create y).perm hperm, fun id hid => ?_⟩
  obtain rfl := Except.ok.inj hid
  refine ⟨⟨type, gs, answers, ?_⟩, (hsound₂.unclaimed_create y).perm hperm⟩
  rw [World.create, hy, List.getElem?_concat_length]

/-! ### Delivering -/

theorem Site.Needs.settled {s t : Site} (hs : s.keeper.Settled home) (h : s.Needs t) :
    t.Genuine ∧ t.keeper.Settled home := by
  obtain ⟨type, -, hserving⟩ := h
  exact hs.of_serving? hserving

theorem Site.settled_of_transGen {s t : Site} (hs : s.keeper.Settled home) (h : TransGen Site.Needs s t) :
    t.Genuine ∧ t.keeper.Settled home := by
  induction h with
  | single hneeds => exact hneeds.settled hs
  | tail _ hneeds ih => exact hneeds.settled ih.2

/-- The cell of a service stays empty while an instance for it is made. -/
theorem World.Grows.cell?_eq_none {w w' : World} {s : Site} {n : Nat} {c : String}
    (h : w.Grows w' (TransGen Site.Needs s)) (hs : s.Genuine) (hsettled : s.keeper.Settled home)
    (hplace : s.place? = some (n, c)) (hnone : w.cell? n c = none) : w'.cell? n c = none := by
  cases hc : w'.cell? n c with
  | none => rfl
  | some id =>
    obtain ⟨t, hst, ht⟩ := h.filled n c id hnone hc
    obtain ⟨htgenuine, htsettled⟩ := Site.settled_of_transGen hsettled hst
    exact absurd ht (Site.place?_ne_of_transGen hs hsettled hst htgenuine htsettled hplace)

theorem Answers.delivers (ha : Answers home depth) : Delivers home depth := by
  intro h type s w held hh hserving hw
  obtain ⟨hs, hsettled⟩ := hh.of_serving? hserving
  have hmake := ha.make hsettled hw
  rw [Site.deliver, Accessor.deliver]
  split
  next cell implementation construct hbody =>
    have hconstruct : s.accessor.construct = construct := by rw [Accessor.construct, hbody]
    have hplace : s.place? = some (s.keeper.store, cell) := by rw [Site.place?, Accessor.cell?, hbody]; rfl
    have hkept : s.place? ≠ none := by
      rw [hplace]
      exact Option.some_ne_none _
    rw [hconstruct] at hmake
    refine .get_bind ?_
    cases hcell : w.cell? s.keeper.store cell with
    | some id =>
      -- The instance was made before.
      refine .pure ⟨.refl w _, ?_⟩
      refine hw.hold (x := ⟨h, type, id⟩) hh hserving (hw.cell?_lt hcell) (fun n c hp => ?_) (absurd · hkept)
      obtain ⟨rfl, rfl⟩ := Prod.mk.inj (Option.some.inj (hplace.symm.trans hp))
      exact hcell
    | none =>
      refine hmake.bind (fun id w₁ hw₁ => ?_) fun e w₁ hw₁ => ⟨hw₁.1.mono fun t ht => ht.to_reflTransGen, hw₁.2.1⟩
      obtain ⟨hgrows, hsound, hmade⟩ := hw₁
      obtain ⟨⟨_, _, _, hinstance⟩, hunclaimed⟩ := hmade id rfl
      -- Nothing that was asked for meanwhile has put an instance into this cell.
      have hempty := hgrows.cell?_eq_none hs hsettled hplace hcell
      have hfilled := hsound.fill hplace hs hsettled ⟨_, _, _, hinstance⟩ hunclaimed
      have hchange : (Attempt.change (·.fill s.keeper.store cell id)).Ensures w₁ fun r w' =>
          r = .ok () ∧ w' = w₁.fill s.keeper.store cell id := .change ⟨rfl, rfl⟩
      refine hchange.bind (fun _ w₂ hw₂ => .pure ?_) fun _ _ he => ?_
      · rw [hw₂.2]
        refine ⟨(hgrows.mono fun t ht => ht.to_reflTransGen).trans (World.grows_fill .refl hplace id), ?_⟩
        refine hfilled.hold (x := ⟨h, type, id⟩) hh hserving (List.getElem?_eq_some_iff.mp hinstance).1
          (fun n c hp => ?_) (absurd · hkept)
        obtain ⟨rfl, rfl⟩ := Prod.mk.inj (Option.some.inj (hplace.symm.trans hp))
        rw [World.cell?_fill, hempty, Option.none_or, if_pos ⟨rfl, rfl⟩]
      · cases he.1
  next implementation construct hbody =>
    have hconstruct : s.accessor.construct = construct := by rw [Accessor.construct, hbody]
    have hplace : s.place? = none := by rw [Site.place?, Accessor.cell?, hbody]; rfl
    rw [hconstruct] at hmake
    refine hmake.mono fun r w' hw' => ⟨hw'.1.mono fun t ht => ht.to_reflTransGen, ?_⟩
    obtain ⟨-, hsound, hmade⟩ := hw'
    cases r with
    | error e => exact hsound
    | ok id =>
      obtain ⟨⟨_, _, _, hinstance⟩, hunclaimed⟩ := hmade id rfl
      refine hsound.hold (x := ⟨h, type, id⟩) hh hserving (List.getElem?_eq_some_iff.mp hinstance).1
        (fun n c hp => ?_) fun _ => hunclaimed
      rw [hplace] at hp
      cases hp

end

/-- Deliveries with any bound keep a world sound. -/
theorem delivers (home : Nat → Option Keeper) (depth : Nat) : Delivers home depth := by
  induction depth with
  | zero => exact answers_zero.delivers
  | succ depth ih => exact ih.answers.delivers

theorem Handle.get_eq (h : Handle) (type : String) : h.get type = Asker.get (ask (h.services + 1)) h type := by
  rw [Handle.get, Asker.get, Asker.get, Handle.lookup]

theorem Handle.require_eq (h : Handle) (type : String) :
    h.require type = Asker.require (ask (h.services + 1)) h type := by
  rw [Handle.require, Asker.require, Asker.require, Asker.get, Asker.get, Handle.lookup]

/-- A request changes a sound world into a sound one, with the receipt of its answer. -/
theorem get_ensures {h : Handle} {w : World} {held : List Receipt} (type : String) (hh : h.Settled home)
    (hw : w.Sound home (held ++ w.receipts)) :
    (h.get type).Ensures w fun r w' => w.Grows w' (h.Reaches type) ∧
      w'.Sound home (h.received type r.toOption.join ++ (held ++ w'.receipts)) := by
  rw [Handle.get_eq]
  exact (delivers home h.services).answers h type w held hh hw

/-- The same with a refusal in place of no answer. -/
theorem require_ensures {h : Handle} {w : World} {held : List Receipt} (type : String) (hh : h.Settled home)
    (hw : w.Sound home (held ++ w.receipts)) :
    (h.require type).Ensures w fun r w' => w.Grows w' (h.Reaches type) ∧
      w'.Sound home (h.received type r.toOption ++ (held ++ w'.receipts)) := by
  rw [Handle.require_eq]
  exact (delivers home h.services).answers.require type hh hw

end ServiceContainer
