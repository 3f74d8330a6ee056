import ServiceContainer.Module.Expansion
import ServiceContainer.Proofs.Collection

/-!
# What an expansion takes away

An expanded module has its own items in their order, and the container after them. The items lose the attributes that
only the generation reads, and nothing else. What is left says nothing more to the reading of declarations: read again,
the items have the same types, without markers, base types and factories.

## Main definitions

* `Attribute.Helps` — the attribute is one that only the generation reads
* `Sheds`, `Item.Sheds` — attributes and items that lose the helping ones
* `Cut` — tokens that lose those of helping attributes
* `Item.IsPlain` — an item whose attributes say nothing about declarations
* `StrippedTo`, `ExpandedBy` — what happens to the items of a module, and to the module

## Main statements

* `Item.sheds_stripped` — what stripping takes away
* `Item.isPlain_stripped` — what stripping leaves
* `expand_sheds` — the frame of an expansion
-/

namespace ServiceContainer

namespace Syntax

/-! ### Items without helping attributes -/

/-- The path of the attribute is one of the words that only the generation reads, and nothing else. -/
def Attribute.Helps (a : Attribute) : Prop :=
  ∃ name ∈ ["service", "factory", "extends", "abstract_service"], a.body.path = [.ident name]

/-- The attributes lose the helping ones and keep the others in their order. -/
inductive Sheds : List Attribute → List Attribute → Prop
  | nil : Sheds [] []
  | gone {a : Attribute} {attributes kept : List Attribute} (h : a.Helps) (hs : Sheds attributes kept) :
    Sheds (a :: attributes) kept
  | kept {a : Attribute} {attributes kept : List Attribute} (h : ¬ a.Helps) (hs : Sheds attributes kept) :
    Sheds (a :: attributes) (a :: kept)

/-- A function loses its helping attributes, and any other member nothing. -/
inductive Member.Sheds : Member → Member → Prop
  | function {f : Function} {kept : List Attribute} (h : Syntax.Sheds f.attributes kept) :
    Member.Sheds (.function f) (.function { f with attributes := kept })
  | other (trees : List Tree) : Member.Sheds (.other trees) (.other trees)

/-- A definition loses its helping attributes, an implementation block those of its functions, and any other item
nothing. -/
inductive Item.Sheds : Item → Item → Prop
  | definition {d : Definition} {kept : List Attribute} (h : Syntax.Sheds d.attributes kept) :
    Item.Sheds (.definition d) (.definition { d with attributes := kept })
  | implementation {b : Implementation} {kept : List Member} (h : List.Forall₂ Member.Sheds b.members kept) :
    Item.Sheds (.implementation b) (.implementation { b with members := kept })
  | other (trees : List Tree) : Item.Sheds (.other trees) (.other trees)

/-- The tokens lose stretches that are helping attributes and keep the others in their order. -/
inductive Cut : List Lexeme → List Lexeme → Prop
  | nil : Cut [] []
  | gone {a : Attribute} {front kept : List Lexeme} (h : a.Helps) (hs : Cut front kept) :
    Cut (lexemes a.trees ++ front) kept
  | kept (x : Lexeme) {front kept : List Lexeme} (hs : Cut front kept) : Cut (x :: front) (x :: kept)

/-- The attributes of the item say nothing about declarations. -/
def Item.IsPlain : Item → Prop
  | .definition d => ∀ a ∈ d.attributes, ∀ declaration, a.addTo declaration = .ok declaration
  | .implementation b => ∀ f, .function f ∈ b.members → ∀ owner, (f.method owner).isFactory = false
  | .other _ => True

/-! ### Attributes -/

section

variable {a : Attribute} {attributes kept : List Attribute}

theorem Attribute.name?_eq_some {name : String} : a.name? = some name ↔ a.body.path = [.ident name] := by
  unfold Attribute.name? AttributeBody.name? Tree.ident
  constructor
  · intro h
    split at h
    next text hpath => rw [hpath, Option.some.inj h]
    next => cases h
  · intro h
    rw [h]

theorem Attribute.isHelper_iff : a.isHelper = true ↔ a.Helps := by
  rw [Attribute.isHelper, Option.any_eq_true]
  constructor
  · rintro ⟨name, hname, hmem⟩
    exact ⟨name, by simpa [helperAttributes] using hmem, Attribute.name?_eq_some.mp hname⟩
  · rintro ⟨name, hmem, hpath⟩
    exact ⟨name, Attribute.name?_eq_some.mpr hpath, by simpa [helperAttributes] using hmem⟩

theorem not_helps_of_mem_stripped (h : a ∈ strippedAttributes attributes) : ¬ a.Helps := by
  intro hhelps
  simpa [Attribute.isHelper_iff.mpr hhelps] using (List.mem_filter.mp h).2

theorem Attribute.name?_ne {name : String} (h : ¬ a.Helps)
    (hname : name ∈ ["service", "factory", "extends", "abstract_service"]) : a.name? ≠ some name :=
  fun heq => h ⟨name, hname, Attribute.name?_eq_some.mp heq⟩

/-- An attribute that does not help says nothing about a declaration. -/
theorem Attribute.addTo_of_not_helps (h : ¬ a.Helps) (d : Declaration) : a.addTo d = .ok d := by
  have hservice := a.name?_ne h (by simp : "service" ∈ _)
  have hextends := a.name?_ne h (by simp : "extends" ∈ _)
  have habstract := a.name?_ne h (by simp : "abstract_service" ∈ _)
  unfold Attribute.addTo
  split
  · contradiction
  · contradiction
  · contradiction
  · rfl

theorem sheds_stripped (attributes : List Attribute) : Sheds attributes (strippedAttributes attributes) := by
  induction attributes with
  | nil => exact .nil
  | cons a rest ih =>
    by_cases h : a.isHelper = true
    · rw [strippedAttributes, List.filter_cons_of_neg (by simp [h])]
      exact .gone (Attribute.isHelper_iff.mp h) ih
    · rw [strippedAttributes, List.filter_cons_of_pos (by simp [h])]
      exact .kept (mt Attribute.isHelper_iff.mpr h) ih

theorem strippedAttributes_idem (attributes : List Attribute) :
    strippedAttributes (strippedAttributes attributes) = strippedAttributes attributes := by
  simp [strippedAttributes]

end

/-! ### Tokens -/

section

theorem Cut.refl (xs : List Lexeme) : Cut xs xs := by
  induction xs with
  | nil => exact .nil
  | cons x xs ih => exact .kept x ih

theorem Cut.append {xs xs' ys ys' : List Lexeme} (h : Cut xs xs') (h' : Cut ys ys') : Cut (xs ++ ys) (xs' ++ ys') := by
  induction h with
  | nil => exact h'
  | gone ha _ ih =>
    -- The stretch that is lost stands before both parts.
    rw [List.append_assoc]
    exact .gone ha ih
  | kept x _ ih => exact .kept x ih

theorem Cut.group {inner inner' : List Tree} (h : Cut (lexemes inner) (lexemes inner')) (d : Delimiter) :
    Cut (lexemes [.group d inner]) (lexemes [.group d inner']) := by
  simp only [lexemes, Tree.lexemes, List.append_nil]
  exact .kept _ (h.append (.refl _))

theorem Cut.flatMap {α : Type} {R : α → α → Prop} {trees : α → List Tree} {xs ys : List α}
    (hR : ∀ x y, R x y → Cut (lexemes (trees x)) (lexemes (trees y))) (h : List.Forall₂ R xs ys) :
    Cut (lexemes (xs.flatMap trees)) (lexemes (ys.flatMap trees)) := by
  induction h with
  | nil => exact .nil
  | cons hx _ ih =>
    rw [List.flatMap_cons, List.flatMap_cons, lexemes_append, lexemes_append]
    exact (hR _ _ hx).append ih

/-- The attributes on one side of the brace lose the tokens of the helping ones. -/
theorem Sheds.cut {attributes kept : List Attribute} (h : Sheds attributes kept) (side : Attribute → Bool) :
    Cut (lexemes ((attributes.filter side).flatMap Attribute.trees))
      (lexemes ((kept.filter side).flatMap Attribute.trees)) := by
  induction h with
  | nil => exact .nil
  | @gone a _ _ ha _ ih =>
    by_cases hside : side a = true
    · rw [List.filter_cons_of_pos hside, List.flatMap_cons, lexemes_append]
      exact .gone ha ih
    · rwa [List.filter_cons_of_neg hside]
  | @kept a _ _ _ _ ih =>
    by_cases hside : side a = true
    · rw [List.filter_cons_of_pos hside, List.filter_cons_of_pos hside, List.flatMap_cons, List.flatMap_cons,
        lexemes_append, lexemes_append]
      exact (Cut.refl _).append ih
    · rwa [List.filter_cons_of_neg hside, List.filter_cons_of_neg hside]

theorem Member.Sheds.cut {m m' : Member} (h : m.Sheds m') : Cut (lexemes m.trees) (lexemes m'.trees) := by
  cases h with
  | other trees => exact .refl _
  | function h =>
    simp only [Member.trees, Function.trees, lexemes_append]
    refine (((h.cut _).append (.refl _)).append (.refl _)).append (Cut.group ?_ _)
    rw [lexemes_append, lexemes_append]
    exact (h.cut _).append (.refl _)

theorem Item.Sheds.cut {i i' : Item} (h : i.Sheds i') : Cut (lexemes i.trees) (lexemes i'.trees) := by
  cases h with
  | other trees => exact .refl _
  | @definition d kept h =>
    simp only [Item.trees, Definition.trees, lexemes_append]
    refine ((h.cut _).append (.refl _)).append ?_
    cases d.body with
    | none => exact .refl _
    | some body =>
      apply Cut.group
      rw [lexemes_append, lexemes_append]
      exact (h.cut _).append (.refl _)
  | implementation h =>
    simp only [Item.trees, Implementation.trees, lexemes_append]
    refine (Cut.refl _).append (Cut.group ?_ _)
    rw [lexemes_append, lexemes_append]
    exact (Cut.refl _).append (Cut.flatMap (fun _ _ hm => hm.cut) h)

end

/-! ### Items -/

theorem Member.sheds_stripped (m : Member) : m.Sheds m.stripped := by
  cases m with
  | function f => exact .function (Syntax.sheds_stripped f.attributes)
  | other trees => exact .other trees

theorem Member.stripped_stripped (m : Member) : m.stripped.stripped = m.stripped := by
  cases m with
  | function f => simp [Member.stripped, strippedAttributes_idem]
  | other trees => rfl

/-- Stripping takes the helping attributes of definitions and of functions in implementation blocks. -/
theorem Item.sheds_stripped (i : Item) : i.Sheds i.stripped := by
  cases i with
  | definition d => exact .definition (Syntax.sheds_stripped d.attributes)
  | implementation b =>
    apply Item.Sheds.implementation
    rw [List.forall₂_map_right_iff, List.forall₂_same]
    exact fun m _ => m.sheds_stripped
  | other trees => exact .other trees

theorem Item.stripped_stripped (i : Item) : i.stripped.stripped = i.stripped := by
  cases i with
  | definition d => simp [Item.stripped, strippedAttributes_idem]
  | implementation b => simp [Item.stripped, Member.stripped_stripped]
  | other trees => rfl

/-- Stripping leaves nothing that says something about declarations. -/
theorem Item.isPlain_stripped (i : Item) : i.stripped.IsPlain := by
  cases i with
  | definition d => exact fun a ha => a.addTo_of_not_helps (not_helps_of_mem_stripped ha)
  | implementation b =>
    intro f hf owner
    obtain ⟨m, -, hm⟩ := List.mem_map.mp hf
    cases m with
    | other trees => cases hm
    | function g =>
      cases hm
      rw [Function.method, List.any_eq_false]
      intro a ha
      simpa using a.name?_ne (not_helps_of_mem_stripped ha) (by simp)
  | other trees => trivial

theorem definitionsOf_stripped (items : List Item) :
    (definitionsOf (items.map Item.stripped)).map (fun d => (TypeExpr.ofName d.name, d.kind)) =
      (definitionsOf items).map fun d => (TypeExpr.ofName d.name, d.kind) := by
  induction items with
  | nil => rfl
  | cons i rest ih =>
    cases i with
    | definition d => exact congrArg (List.cons _) ih
    | implementation b => exact ih
    | other trees => exact ih

end Syntax

open Syntax (Item ModuleItem Cut definitionsOf lexemes)

/-! ### Declarations of plain items -/

/-- The declaration has no marker, no base type, and no function that is marked as a factory. -/
structure Declaration.IsPlain (d : Declaration) : Prop where
  markers : d.markers = []
  base : d.base = none
  methods : ∀ m ∈ d.methods, m.isFactory = false

section

variable {items : List Item} {d : Declaration}

theorem foldlM_addTo_of_plain {attributes : List Syntax.Attribute}
    (h : ∀ a ∈ attributes, ∀ d : Declaration, a.addTo d = .ok d) (d : Declaration) :
    attributes.foldlM (fun d a => a.addTo d) d = .ok d := by
  induction attributes with
  | nil => rfl
  | cons a rest ih =>
    obtain ⟨ha, hrest⟩ := List.forall_mem_cons.mp h
    rw [List.foldlM_cons, ha d]
    exact ih hrest

theorem Declaration.IsPlain.addContract (hd : d.IsPlain) (contract : TypeExpr) : (d.addContract contract).IsPlain := by
  unfold Declaration.addContract
  split
  · exact ⟨hd.markers, hd.base, hd.methods⟩
  · split
    · exact hd
    · exact ⟨hd.markers, hd.base, hd.methods⟩

theorem Declaration.IsPlain.addBlock (hd : d.IsPlain) {block : Syntax.Implementation}
    (hblock : (Item.implementation block).IsPlain) : (block.addTo d).IsPlain := by
  unfold Syntax.Implementation.addTo
  split
  · split
    · exact hd
    · exact hd.addContract _
  · refine List.foldlRecOn block.members _ hd fun d hd member hmember => ?_
    cases member with
    | other trees => exact hd
    | function f =>
      refine ⟨hd.markers, hd.base, fun m hm => ?_⟩
      -- The functions are those that were there and the new one.
      rcases List.mem_append.mp hm with hm | hm
      · exact hd.methods m hm
      · rw [List.mem_singleton.mp hm]
        exact hblock f hmember d.type

theorem Syntax.Definition.declaration_of_plain {definition : Syntax.Definition}
    (h : (Item.definition definition).IsPlain) : ∃ d, definition.declaration = .ok d ∧ d.IsPlain :=
  ⟨_, foldlM_addTo_of_plain h _, rfl, rfl, fun _ hm => nomatch hm⟩

/-- Plain items have declarations, and these are plain. -/
theorem declarationsOf_of_plain (h : ∀ i ∈ items, i.IsPlain) :
    ∃ ds, declarationsOf items = .ok ds ∧ ∀ d ∈ ds, d.IsPlain := by
  have hdefinitions : ∀ definition ∈ definitionsOf items, ∃ d, definition.declaration = .ok d ∧ d.IsPlain := by
    intro definition hmem
    obtain ⟨i, hi, hdefinition⟩ := List.mem_filterMap.mp hmem
    cases i with
    | definition d =>
      cases hdefinition
      exact Syntax.Definition.declaration_of_plain (h _ hi)
    | implementation b => cases hdefinition
    | other trees => cases hdefinition
  obtain ⟨declared, hdeclared⟩ :
      ∃ declared, (definitionsOf items).mapM Syntax.Definition.declaration = .ok declared := by
    cases hdeclared : (definitionsOf items).mapM Syntax.Definition.declaration with
    | ok declared => exact ⟨declared, rfl⟩
    | error e =>
      -- The definition that fails would be one of the items.
      obtain ⟨before, definition, after, hsplit, -, herror⟩ := mapM_eq_error.mp hdeclared
      obtain ⟨d, hd, -⟩ := hdefinitions definition (by simp [hsplit])
      rw [hd] at herror
      cases herror
  have hok : declarationsOf items = .ok (items.foldl (fun ds i => i.addTo ds) declared) :=
    declarationsOf_eq_ok.mpr ⟨declared, hdeclared, rfl⟩
  refine ⟨_, hok, forall_of_declarationsOf hok (fun definition d hi hd => ?_) fun block d hi hd => hd.addBlock (h _ hi)⟩
  obtain ⟨d', hd', hplain⟩ := Syntax.Definition.declaration_of_plain (h _ hi)
  rw [hd'] at hd
  exact Except.ok.inj hd ▸ hplain

end

/-! ### The frame of an expansion -/

/-- The items lose helping attributes and no other token; what they keep says nothing about declarations, and nothing of
it is stripped again. -/
structure StrippedTo (items kept : List Item) : Prop where
  sheds : List.Forall₂ Item.Sheds items kept
  cut : Cut (lexemes (items.flatMap Item.trees)) (lexemes (kept.flatMap Item.trees))
  plain : ∀ i ∈ kept, i.IsPlain
  again : kept.map Item.stripped = kept

/-- The module becomes another one by what is kept of its items and by one more item, the container that is generated
from the declarations of its items. -/
structure ExpandedBy (o : Options) (m m' : ModuleItem) (items kept : List Item) (ds : List Declaration) : Prop where
  inside : m.items = some items
  declarations : declarationsOf items = .ok ds
  result : ∃ g container, generate o ds = .ok g ∧ generatedItem g = .ok container ∧
    m' = { m with items := some (kept ++ [container]) }

theorem strippedTo_stripped (items : List Item) : StrippedTo items (items.map Item.stripped) := by
  have hsheds : List.Forall₂ Item.Sheds items (items.map Item.stripped) := by
    rw [List.forall₂_map_right_iff, List.forall₂_same]
    exact fun i _ => i.sheds_stripped
  refine ⟨hsheds, Cut.flatMap (fun _ _ hi => hi.cut) hsheds, List.forall_mem_map.mpr fun i _ => i.isPlain_stripped, ?_⟩
  rw [List.map_map]
  exact List.map_congr_left fun i _ => i.stripped_stripped

theorem expand_eq_ok {m m' : ModuleItem} {o : Options} (h : m.expand o = .ok m') :
    ∃ items ds, ExpandedBy o m m' items (items.map Item.stripped) ds := by
  unfold Syntax.ModuleItem.expand at h
  cases hitems : m.items with
  | none =>
    rw [hitems] at h
    cases h
  | some items =>
    rw [hitems] at h
    obtain ⟨ds, hds, h⟩ := bind_eq_ok.mp h
    obtain ⟨g, hg, h⟩ := bind_eq_ok.mp h
    obtain ⟨container, hcontainer, h⟩ := bind_eq_ok.mp h
    cases h
    exact ⟨items, ds, hitems, hds, g, container, mapError_eq_ok.mp hg, hcontainer, rfl⟩

/-- An expanded module is the module with its items and the container after them. The items lose helping attributes and
nothing else, and are read again as the same types, without markers, base types and factories. -/
theorem expand_sheds {m m' : ModuleItem} {o : Options} (h : m.expand o = .ok m') :
    ∃ items kept ds ds', ExpandedBy o m m' items kept ds ∧ StrippedTo items kept ∧ declarationsOf kept = .ok ds' ∧
      ds'.map Declaration.head = ds.map Declaration.head ∧ ∀ d ∈ ds', d.IsPlain := by
  obtain ⟨items, ds, hexpanded⟩ := expand_eq_ok h
  have hstripped := strippedTo_stripped items
  obtain ⟨ds', hds', hplain⟩ := declarationsOf_of_plain hstripped.plain
  refine ⟨items, _, ds, ds', hexpanded, hstripped, hds', ?_, hplain⟩
  rw [heads_of_declarationsOf hds', heads_of_declarationsOf hexpanded.declarations, Syntax.definitionsOf_stripped]

namespace Sample

/-- A module with the clock, which has an attribute besides its marker and a function that is marked as a factory. -/
def clockModule : ModuleItem where
  attributes := []
  lead := [.ident "mod", .ident "app"]
  items := some
    [.definition
       { attributes := [⟨false, ⟨[.ident "derive"], .list .paren [.ident "Clone"]⟩⟩, markerAttribute "singleton"],
         kind := .struct, name := "Clock", generic := false, unit := true, lead := [], body := none },
     implemented "Clock" none
       [.function
          { attributes := [⟨false, ⟨[.ident "factory"], .bare⟩⟩], lead := [], body := [],
            signature :=
              { name := "wind", receiver := false, parameters := [], returns := some (typeNamed "Self"),
                trees := [] } }]]

theorem expand_clockModule : (clockModule.expand {}).toOption.isSome = true := by decide +kernel

end Sample

theorem expand_sheds_clock : ∃ m', Sample.clockModule.expand {} = .ok m' ∧
    ∃ items kept ds ds', ExpandedBy {} Sample.clockModule m' items kept ds ∧ StrippedTo items kept ∧
      declarationsOf kept = .ok ds' ∧ ds'.map Declaration.head = ds.map Declaration.head ∧ ∀ d ∈ ds', d.IsPlain :=
  ⟨_, eq_ok_of_isSome Sample.expand_clockModule, expand_sheds (eq_ok_of_isSome Sample.expand_clockModule)⟩

end ServiceContainer
