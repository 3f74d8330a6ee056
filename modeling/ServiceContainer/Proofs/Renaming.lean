import Mathlib.Data.List.Forall2
import ServiceContainer.Proofs.Requests

/-!
# Worlds up to the names of instances

Two furnished worlds with the same filled cells keep the same instances under other names. What is in a cell of one is
the twin of what is in this cell of the other, and what twins were made from are twins, parameter by parameter and
answer by answer. Nothing has two twins: an instance that is kept is in one cell, and any other was given out once.

## Main definitions

* `World.Renames` — a relation between names under which two worlds are the same
* `World.SamePlace` — the names of what is in the same cell of two worlds
* `World.Twin` — the names of the same instance in two worlds

## Main statements

* `World.Furnished.twin_made` — twins were made for one service
* `World.Furnished.twin_unique` — an instance has one twin
* `World.Furnished.renames_twin` — worlds with the same filled cells are the same up to names
-/

namespace ServiceContainer

/-! ### Renamings -/

/-- Parameters were given the same but for names. -/
inductive Given.Renames (ρ : Nat → Nat → Prop) : Given → Given → Prop where
  | shared {x y : Nat} (same : ρ x y) : Renames ρ (.shared x) (.shared y)
  | cloned {x y : Nat} (same : ρ x y) : Renames ρ (.cloned x) (.cloned y)
  | provider : Renames ρ .provider .provider

/-- Instances were made in the same way by the same provider, and from the same but for names. -/
inductive Instance.Renames (ρ : Nat → Nat → Prop) : Instance → Instance → Prop where
  | built {type : String} {maker : Handle} {construct : Construct} {arguments arguments' : List Given}
    {answers answers' : List (Option Nat)} (given : List.Forall₂ (Given.Renames ρ) arguments arguments')
    (answered : List.Forall₂ (Option.Rel ρ) answers answers') :
    Renames ρ (.built type maker construct arguments answers) (.built type maker construct arguments' answers')

/-- The worlds keep the same in their cells and have disposed of the same in the same order, but for the names of
instances, which the relation pairs off. -/
structure World.Renames (ρ : Nat → Nat → Prop) (w w' : World) : Prop where
  unique : ∀ x y x' y', ρ x y → ρ x' y' → (x = x' ↔ y = y')
  cells : ∀ n cell, Option.Rel ρ (w.cell? n cell) (w'.cell? n cell)
  instances : ∀ x y, ρ x y → ∃ i j, w.instances[x]? = some i ∧ w'.instances[y]? = some j ∧ i.Renames ρ j
  disposals : List.Forall₂ ρ w.disposals w'.disposals

/-! ### What instances were made from, in order -/

/-- What an instance was made from: by the parameters, and then by the answers to its code. -/
def Instance.slots : Instance → List (Option Nat)
  | .built _ _ _ arguments answers => arguments.map Given.source? ++ answers
  | .given _ _ => []

/-- The types of what an instance of the service is made from. -/
def Site.slotTypes (s : Site) : List (Option String) :=
  s.accessor.construct.arguments.map s.keeper.assembly.argumentType? ++
    (s.keeper.assembly.asked s.accessor.construct).map some

/-- What an instance was made from at a position. -/
def World.slot? (w : World) (x i : Nat) : Option Nat := w.instances[x]?.bind fun a => a.slots[i]?.join

/-- The receipt for a position. -/
def Keeper.slotReceipt? (k : Keeper) (slot : Option String × Option Nat) : Option Receipt :=
  slot.1.bind fun type => slot.2.map (⟨k.handle, type, ·⟩)

section

variable {reg : Assembly → List Registration} {home : Nat → Option Keeper} {w w' : World} {s t : Site} {k : Keeper}
variable {x y z i j : Nat}

theorem Argument.receipt?_eq {argument : Argument} {g : Given} (hg : argument.GivenBy w k g) :
    argument.receipt? k g = k.slotReceipt? (k.assembly.argumentType? argument, g.source?) := by
  cases hg <;> rfl

/-- The receipts of an instance are those for its positions. -/
theorem Site.Assembles.receipts_eq {a : Instance} (hs : s.Assembles w a) :
    a.receipts = (s.slotTypes.zip a.slots).filterMap s.keeper.slotReceipt? := by
  obtain ⟨arguments, answers, rfl, hgiven, -⟩ := hs
  have harguments : s.keeper.argumentReceipts s.accessor.construct.arguments arguments =
      ((s.accessor.construct.arguments.map s.keeper.assembly.argumentType?).zip
        (arguments.map Given.source?)).filterMap s.keeper.slotReceipt? := by
    rw [List.zip_map, List.filterMap_map, Keeper.argumentReceipts]
    refine List.filterMap_congr fun p hp => ?_
    exact Argument.receipt?_eq (List.forall₂_zip hgiven hp)
  have hanswers : s.keeper.answerReceipts (s.keeper.assembly.asked s.accessor.construct) answers =
      (((s.keeper.assembly.asked s.accessor.construct).map some).zip answers).filterMap s.keeper.slotReceipt? := by
    rw [List.zip_map_left, List.filterMap_map]
    rfl
  have hlength : (s.accessor.construct.arguments.map s.keeper.assembly.argumentType?).length =
      (arguments.map Given.source?).length := by
    rw [List.length_map, List.length_map, hgiven.length_eq]
  rw [Keeper.receipts_built, Keeper.receipts, harguments, hanswers, ← List.filterMap_append, ← List.zip_append hlength]
  rfl

theorem getElem?_zip {α β : Type} {as : List α} {bs : List β} {a : α} {b : β} (ha : as[i]? = some a)
    (hb : bs[i]? = some b) : (as.zip bs)[i]? = some (a, b) :=
  List.getElem?_zip_eq_some.mpr ⟨ha, hb⟩

/-- What is at a position of an instance, its provider has for the type of the position. -/
theorem Site.Assembles.exists_slotType {a : Instance} (hs : s.Assembles w a) (hi : a.slots[i]? = some (some z)) :
    ∃ type, s.slotTypes[i]? = some (some type) ∧ w.Has s.keeper.handle type z := by
  obtain ⟨arguments, answers, rfl, hgiven, hanswered⟩ := hs
  have hslots : List.Forall₂ (fun (type : Option String) (slot : Option Nat) => ∀ id, slot = some id →
      ∃ t, type = some t ∧ w.Has s.keeper.handle t id) s.slotTypes (arguments.map Given.source? ++ answers) := by
    refine List.rel_append ?_ ?_
    · rw [List.forall₂_map_left_iff, List.forall₂_map_right_iff]
      refine hgiven.imp fun argument g hg id hid => ?_
      cases hg with
      | shared has => exact ⟨_, rfl, Option.some.inj hid ▸ has⟩
      | cloned has => exact ⟨_, rfl, Option.some.inj hid ▸ has⟩
      | provider => exact nomatch hid
    · rw [List.forall₂_map_left_iff]
      exact hanswered.imp fun type answer hanswer id hid => ⟨type, rfl, hanswer id hid⟩
  have hlt : i < s.slotTypes.length := by
    rw [hslots.length_eq]
    exact (List.getElem?_eq_some_iff.mp hi).1
  have htype := List.getElem?_eq_getElem hlt
  obtain ⟨type, heq, hhas⟩ := List.forall₂_zip hslots (List.mem_of_getElem? (getElem?_zip htype hi)) z rfl
  exact ⟨type, by rw [htype, heq], hhas⟩

theorem Site.Assembles.mem_receipts {a : Instance} (hs : s.Assembles w a) {type : String}
    (htype : s.slotTypes[i]? = some (some type)) (hi : a.slots[i]? = some (some z)) :
    ⟨s.keeper.handle, type, z⟩ ∈ a.receipts := by
  rw [hs.receipts_eq]
  exact List.mem_filterMap.mpr ⟨_, List.mem_of_getElem? (getElem?_zip htype hi), rfl⟩

theorem World.slot?_eq_some : w.slot? x i = some z ↔
    ∃ a, w.instances[x]? = some a ∧ a.slots[i]? = some (some z) := by
  rw [World.slot?, Option.bind_eq_some_iff]
  simp only [Option.join_eq_some_iff]

/-- Elements at different positions of a list are related if any two are, in either order. -/
theorem rel_of_getElem? {α : Type} {R : α → α → Prop} (hR : ∀ a b, R a b → R b a) {l : List α} (hl : l.Pairwise R)
    {a b : α} (ha : l[i]? = some a) (hb : l[j]? = some b) (hij : i ≠ j) : R a b := by
  obtain ⟨hi, rfl⟩ := List.getElem?_eq_some_iff.mp ha
  obtain ⟨hj, rfl⟩ := List.getElem?_eq_some_iff.mp hb
  rcases Nat.lt_or_gt_of_ne hij with hlt | hlt
  · exact List.pairwise_iff_getElem.mp hl i j hi hj hlt
  · exact hR _ _ (List.pairwise_iff_getElem.mp hl j i hj hi hlt)

namespace World

/-- An instance of a service was made for it in all that its making shows. -/
theorem Wired.assembles_of_made (hw : w.Wired home) (hmade : s.Made w x) :
    ∃ a, w.instances[x]? = some a ∧ s.Assembles w a := by
  obtain ⟨type, arguments, answers, hx⟩ := hmade
  obtain ⟨t, -, -, arguments', answers', heq, hgiven, hanswered⟩ := hw.assembled x _ hx
  obtain ⟨htype, hhandle, hconstruct, rfl, rfl⟩ := Instance.built.inj heq
  rw [← Keeper.handle_injective hhandle, ← hconstruct] at htype hgiven hanswered
  exact ⟨_, hx, arguments, answers, by rw [htype], hgiven, hanswered⟩

/-- What is at a position of an instance is on a receipt. -/
theorem Wired.mem_receipts (hw : w.Wired home) (hmade : s.Made w x) (hslot : w.slot? x i = some z) :
    ∃ type, s.slotTypes[i]? = some (some type) ∧ w.Has s.keeper.handle type z ∧
      ⟨s.keeper.handle, type, z⟩ ∈ w.receipts := by
  obtain ⟨a, hx, hassembles⟩ := hw.assembles_of_made hmade
  obtain ⟨b, hx', hi⟩ := slot?_eq_some.mp hslot
  obtain rfl := Option.some.inj (hx.symm.trans hx')
  obtain ⟨type, htype, hhas⟩ := hassembles.exists_slotType hi
  exact ⟨type, htype, hhas, List.mem_flatMap.mpr ⟨a, List.mem_of_getElem? hx, hassembles.mem_receipts htype hi⟩⟩

theorem slotTypes_eq_of_made (hs : s.Made w x) (ht : t.Made w x) :
    s.keeper = t.keeper ∧ s.slotTypes = t.slotTypes := by
  obtain ⟨_, _, _, hx⟩ := hs
  obtain ⟨_, _, _, hx'⟩ := ht
  obtain ⟨-, hhandle, hconstruct, -, -⟩ := Instance.built.inj (Option.some.inj (hx.symm.trans hx'))
  have hkeeper := Keeper.handle_injective hhandle
  exact ⟨hkeeper, by rw [Site.slotTypes, Site.slotTypes, hkeeper, hconstruct]⟩

/-- An instance that is kept nowhere is at one position. -/
theorem Furnished.slot_unique (hw : w.Furnished reg home) (hs : s.Made w x) (ht : t.Made w y)
    (hx : w.slot? x i = some z) (hy : w.slot? y j = some z) {type other : String}
    (htype : s.slotTypes[i]? = some (some type)) (hother : t.slotTypes[j]? = some (some other))
    (hloose : (Receipt.mk s.keeper.handle type z).place? = none)
    (hloose' : (Receipt.mk t.keeper.handle other z).place? = none) : x = y ∧ i = j := by
  obtain ⟨a, hax, hsa⟩ := hw.wired.assembles_of_made hs
  obtain ⟨b, hby, htb⟩ := hw.wired.assembles_of_made ht
  obtain ⟨_, hax', hi⟩ := slot?_eq_some.mp hx
  obtain rfl := Option.some.inj (hax.symm.trans hax')
  obtain ⟨_, hby', hj⟩ := slot?_eq_some.mp hy
  obtain rfl := Option.some.inj (hby.symm.trans hby')
  obtain ⟨hwithin, hacross⟩ := List.pairwise_flatMap.mp hw.sound.apart
  by_cases hxy : x = y
  · -- Both positions are in one instance, and no two of its receipts are for one loose instance.
    subst hxy
    refine ⟨rfl, by_contra fun hij => ?_⟩
    obtain rfl := Option.some.inj (hax.symm.trans hby)
    obtain ⟨hkeeper, htypes⟩ := slotTypes_eq_of_made hs ht
    have hown := hwithin a (List.mem_of_getElem? hax)
    rw [hsa.receipts_eq, List.pairwise_filterMap] at hown
    rw [← htypes] at hother
    rw [← hkeeper] at hloose'
    exact rel_of_getElem? (fun p q h r hr r' hr' hn hn' => (h r' hr' r hr hn' hn).symm) hown (getElem?_zip htype hi)
      (getElem?_zip hother hj) hij _ rfl _ rfl hloose hloose' rfl
  · have hapart := rel_of_getElem? (fun p q h r hr r' hr' hn hn' => (h r' hr' r hr hn' hn).symm) hacross hax hby hxy
      _ (hsa.mem_receipts htype hi) _ (htb.mem_receipts hother hj) hloose hloose'
    exact absurd rfl hapart

/-! ### Twins -/

/-- The names of what is in the same cell of two worlds. -/
def SamePlace (w w' : World) (x y : Nat) : Prop := ∃ n cell, w.cell? n cell = some x ∧ w'.cell? n cell = some y

theorem SamePlace.mono {v v' : World} (h : SamePlace w w' x y) (hv : w.Persists v) (hv' : w'.Persists v') :
    SamePlace v v' x y :=
  let ⟨n, cell, hx, hy⟩ := h
  ⟨n, cell, hv.kept n cell x hx, hv'.kept n cell y hy⟩

/-- Where the same cells are filled, a cell is empty in both worlds or has something in both. -/
theorem rel_cell? (hfilled : ∀ p, w.Filled p ↔ w'.Filled p) (n : Nat) (cell : String) :
    Option.Rel (SamePlace w w') (w.cell? n cell) (w'.cell? n cell) := by
  have hiff := hfilled (n, cell)
  cases hx : w.cell? n cell with
  | none =>
    have hnone : w'.cell? n cell = none := by
      by_contra hy
      exact hiff.mpr hy hx
    rw [hnone]
    exact .none
  | some x =>
    obtain ⟨y, hy⟩ := filled_iff.mp (hiff.mp (filled_iff.mpr ⟨x, hx⟩))
    rw [show w'.cell? n cell = some y from hy]
    exact .some ⟨n, cell, hx, hy⟩

/-- The names of the same instance in two worlds: what is in the same cell, and what twins were made from at the same
position. -/
inductive Twin (w w' : World) : Nat → Nat → Prop where
  | cell {n : Nat} {cell : String} {x y : Nat} (left : w.cell? n cell = some x) (right : w'.cell? n cell = some y) :
    Twin w w' x y
  | slot {x y i x' y' : Nat} (twin : Twin w w' x y) (left : w.slot? x i = some x') (right : w'.slot? y i = some y') :
    Twin w w' x' y'

theorem SamePlace.twin (h : SamePlace w w' x y) : Twin w w' x y :=
  let ⟨_, _, hx, hy⟩ := h
  .cell hx hy

theorem Twin.symm (h : Twin w w' x y) : Twin w' w y x := by
  induction h with
  | cell left right => exact .cell right left
  | slot _ left right ih => exact .slot ih right left

/-- Twins were made for one service. -/
theorem Furnished.twin_made (hw : w.Furnished reg home) (hw' : w'.Furnished reg home) (h : Twin w w' x y) :
    ∃ s : Site, s.keeper.Settled home ∧ s.Made w x ∧ s.Made w' y := by
  induction h with
  | cell left right =>
    obtain ⟨s, hplace, hs, hsettled, hmade⟩ := hw.wired.filled _ _ _ left
    exact ⟨s, hsettled, hmade, hw'.wired.made_of_cell? hs hsettled hplace right⟩
  | slot _ left right ih =>
    obtain ⟨s, hsettled, hmade, hmade'⟩ := ih
    -- The position tells the type, and the provider has one service for a type.
    obtain ⟨type, htype, ⟨t, hserving, ht⟩, -⟩ := hw.wired.mem_receipts hmade left
    obtain ⟨other, hother, ⟨t', hserving', ht'⟩, -⟩ := hw'.wired.mem_receipts hmade' right
    obtain rfl := Option.some.inj (Option.some.inj (htype.symm.trans hother))
    obtain rfl := Option.some.inj (hserving.symm.trans hserving')
    rw [Keeper.serving?_handle] at hserving
    exact ⟨t, (hsettled.of_serving? hserving).2, ht, ht'⟩

/-- The twin of an instance in a cell is in the same cell. -/
theorem Furnished.twin_of_cell? (hw : w.Furnished reg home) (hw' : w'.Furnished reg home) {n : Nat} {cell : String}
    (hx : w.cell? n cell = some x) (hy : w'.cell? n cell = some y) (h : Twin w w' x z) : z = y := by
  cases h with
  | cell left right =>
    obtain ⟨rfl, rfl⟩ := hw.sound.injective _ _ _ _ _ hx left
    exact Option.some.inj (right.symm.trans hy)
  | slot twin left right =>
    obtain ⟨s, -, hmade, hmade'⟩ := hw.twin_made hw' twin
    obtain ⟨type, htype, -, hmem⟩ := hw.wired.mem_receipts hmade left
    obtain ⟨other, hother, -, hmem'⟩ := hw'.wired.mem_receipts hmade' right
    obtain rfl := Option.some.inj (Option.some.inj (htype.symm.trans hother))
    -- What is in a cell was handed out from there, in both worlds.
    cases hplace : (Receipt.mk s.keeper.handle type x).place? with
    | none => exact absurd hx (hw.sound.loose _ hmem hplace _ _)
    | some p =>
      obtain ⟨rfl, rfl⟩ := hw.sound.injective _ _ _ _ _ hx (hw.sound.kept _ hmem _ _ hplace)
      have hz := hw'.sound.kept _ hmem' _ _ hplace
      exact Option.some.inj (hz.symm.trans hy)

/-- An instance has one twin. -/
theorem Furnished.twin_unique (hw : w.Furnished reg home) (hw' : w'.Furnished reg home) (h : Twin w w' x y)
    (h' : Twin w w' x z) : y = z := by
  induction h generalizing z with
  | cell left right => exact (hw.twin_of_cell? hw' left right h').symm
  | @slot u v i x y twin left right ih =>
    cases h' with
    | cell left' right' => exact hw.twin_of_cell? hw' left' right' (.slot twin left right)
    | @slot u' v' j _ _ twin' left' right' =>
      obtain ⟨s, -, hmade, hmade'⟩ := hw.twin_made hw' twin
      obtain ⟨type, htype, -, hmem⟩ := hw.wired.mem_receipts hmade left
      obtain ⟨_, hother, -, hmem'⟩ := hw'.wired.mem_receipts hmade' right
      obtain rfl := Option.some.inj (Option.some.inj (htype.symm.trans hother))
      cases hplace : (Receipt.mk s.keeper.handle type x).place? with
      | some p =>
        have hx := hw.sound.kept _ hmem _ _ hplace
        have hy := hw'.sound.kept _ hmem' _ _ hplace
        exact (hw.twin_of_cell? hw' hx hy (.slot twin' left' right')).symm
      | none =>
        -- An instance that is in no cell was given out once, so both ways to it end with the same step.
        obtain ⟨t, -, ht, -⟩ := hw.twin_made hw' twin'
        obtain ⟨_, htype', -, hmem₁⟩ := hw.wired.mem_receipts ht left'
        cases hplace' : (Receipt.mk t.keeper.handle _ x).place? with
        | some p => exact absurd (hw.sound.kept _ hmem₁ _ _ hplace') (hw.sound.loose _ hmem hplace _ _)
        | none =>
          obtain ⟨rfl, rfl⟩ := hw.slot_unique hmade ht left left' htype htype' hplace hplace'
          obtain rfl := ih twin'
          exact Option.some.inj (right.symm.trans right')

/-! ### The same up to names -/

variable {ρ : Nat → Nat → Prop}

theorem given_renames {arguments : List Argument} {gs gs' : List Given}
    (hgiven : List.Forall₂ (Argument.GivenBy w k) arguments gs)
    (hgiven' : List.Forall₂ (Argument.GivenBy w' k) arguments gs')
    (hslots : ∀ (i x y : Nat), (gs.map Given.source?)[i]? = some (some x) →
      (gs'.map Given.source?)[i]? = some (some y) → ρ x y) :
    List.Forall₂ (Given.Renames ρ) gs gs' := by
  induction hgiven generalizing gs' with
  | nil =>
    cases hgiven'
    exact .nil
  | cons hg _ ih =>
    obtain _ | ⟨hg', hrest⟩ := hgiven'
    refine .cons ?_ (ih hrest fun i => hslots (i + 1))
    cases hg with
    | shared =>
      cases hg'
      exact .shared (hslots 0 _ _ rfl rfl)
    | cloned =>
      cases hg'
      exact .cloned (hslots 0 _ _ rfl rfl)
    | provider =>
      cases hg'
      exact .provider

/-- What can be had decides which answers there are. -/
theorem answers_rename {types : List String} {answers answers' : List (Option Nat)}
    (hanswered : k.AnsweredFully reg types answers) (hanswered' : k.AnsweredFully reg types answers')
    (hslots : ∀ (i x y : Nat), answers[i]? = some (some x) → answers'[i]? = some (some y) → ρ x y) :
    List.Forall₂ (Option.Rel ρ) answers answers' := by
  induction hanswered generalizing answers' with
  | nil =>
    cases hanswered'
    exact .nil
  | @cons type answer _ _ hanswer _ ih =>
    obtain _ | ⟨hanswer', hrest⟩ := hanswered'
    refine .cons ?_ (ih hrest fun i => hslots (i + 1))
    have hsome := hanswer.trans hanswer'.symm
    cases answer with
    | none =>
      cases Option.not_isSome_iff_eq_none.mp (mt hsome.mpr nofun)
      exact .none
    | some x =>
      obtain ⟨y, rfl⟩ := Option.isSome_iff_exists.mp (hsome.mp rfl)
      exact .some (hslots 0 x y rfl rfl)

/-- Furnished worlds with the same filled cells are the same up to the names of instances. -/
theorem Furnished.renames_twin (hw : w.Furnished reg home) (hw' : w'.Furnished reg home)
    (hfilled : ∀ p, w.Filled p ↔ w'.Filled p) (hdisposals : List.Forall₂ (SamePlace w w') w.disposals w'.disposals) :
    w.Renames (Twin w w') w' where
  unique x y x' y' h h' := by
    constructor
    · rintro rfl
      exact hw.twin_unique hw' h h'
    · rintro rfl
      exact hw'.twin_unique hw h.symm h'.symm
  cells n cell :=
    match w.cell? n cell, w'.cell? n cell, rel_cell? hfilled n cell with
    | _, _, .some h => .some h.twin
    | _, _, .none => .none
  instances x y h := by
    obtain ⟨s, -, hmade, hmade'⟩ := hw.twin_made hw' h
    obtain ⟨a, hx, gs, answers, rfl, hgiven, -⟩ := hw.wired.assembles_of_made hmade
    obtain ⟨b, hy, gs', answers', rfl, hgiven', -⟩ := hw'.wired.assembles_of_made hmade'
    -- What is at a position of one is the twin of what is there of the other.
    have hslots (i u v : Nat) (hu : (gs.map Given.source? ++ answers)[i]? = some (some u))
        (hv : (gs'.map Given.source? ++ answers')[i]? = some (some v)) : Twin w w' u v :=
      .slot h (slot?_eq_some.mpr ⟨_, hx, hu⟩) (slot?_eq_some.mpr ⟨_, hy, hv⟩)
    have hlength : (gs.map Given.source?).length = (gs'.map Given.source?).length := by
      rw [List.length_map, List.length_map, ← hgiven.length_eq, hgiven'.length_eq]
    refine ⟨_, _, hx, hy, .built (given_renames hgiven hgiven' fun i u v hu hv => ?_)
      (answers_rename (hw.stocked.answered _ _ _ _ _ _ hx) (hw'.stocked.answered _ _ _ _ _ _ hy) fun i u v hu hv => ?_)⟩
    · refine hslots i u v ?_ ?_
      · rw [List.getElem?_append_left (List.getElem?_eq_some_iff.mp hu).1, hu]
      · rw [List.getElem?_append_left (List.getElem?_eq_some_iff.mp hv).1, hv]
    · refine hslots ((gs.map Given.source?).length + i) u v ?_ ?_
      · rw [List.getElem?_append_right (Nat.le_add_right _ _), Nat.add_sub_cancel_left, hu]
      · rw [hlength, List.getElem?_append_right (Nat.le_add_right _ _), Nat.add_sub_cancel_left, hv]
  disposals := hdisposals.imp fun _ _ h => h.twin

end World

end

end ServiceContainer
