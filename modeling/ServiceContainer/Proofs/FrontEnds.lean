import ServiceContainer.Module.Declare
import ServiceContainer.Proofs.ParameterNames
import ServiceContainer.Proofs.Selection
import ServiceContainer.Proofs.TypePaths

/-!
# Two ways to write declarations

The items of a module and a manifest are read by different functions. Where a manifest says of each declaration what
the items say, both readings give the same declarations up to the names of parameters, and so the same container. A
type inside a declaration may be written with `Self` in either of them: replacing `Self` twice is replacing it once.

## Main definitions

* `Tree.Writes` — a type that is another one with `Self` for some occurrences of the owner
* `TypeEntry.Describes` — an entry of a manifest that says what a declaration says
* `Declaration.Collected` — what declarations from items have in common

## Main statements

* `Tree.Writes.replaceSelf_eq` — types that differ in where they write `Self` are the same once it is replaced
* `collected_of_declarationsOf` — declarations from items have no `Self` left in their functions
* `TypeEntry.Describes.exists_declaration` — the declaration of an entry that describes one
* `declarations_agree` — the two readings
-/

namespace ServiceContainer

/-! ### Types with `Self` -/

namespace Syntax

mutual

/-- The first tree is the second, with the type `Self` in place of some occurrences of the owner. -/
inductive Tree.Writes (owner : Tree) : Tree → Tree → Prop
  | token (t : Token) : Tree.Writes owner (.token t) (.token t)
  | group {d : Delimiter} {inner inner' : List Tree} (h : WritesAll owner inner inner') :
    Tree.Writes owner (.group d inner) (.group d inner')
  | phrase {c : Category} {parts parts' : List Tree} (h : WritesAll owner parts parts') :
    Tree.Writes owner (.phrase c parts) (.phrase c parts')
  | self {t : Tree} (h : t.isBareSelf = true) : Tree.Writes owner t owner

/-- The same tree by tree. -/
inductive WritesAll (owner : Tree) : List Tree → List Tree → Prop
  | nil : WritesAll owner [] []
  | cons {t t' : Tree} {ts ts' : List Tree} (h : Tree.Writes owner t t') (hs : WritesAll owner ts ts') :
    WritesAll owner (t :: ts) (t' :: ts')

end

mutual

theorem Tree.Writes.refl (owner : Tree) : ∀ t : Tree, Tree.Writes owner t t
  | .token t => .token t
  | .group _ inner => .group (WritesAll.refl owner inner)
  | .phrase _ parts => .phrase (WritesAll.refl owner parts)

theorem WritesAll.refl (owner : Tree) : ∀ ts : List Tree, WritesAll owner ts ts
  | [] => .nil
  | t :: ts => .cons (Tree.Writes.refl owner t) (WritesAll.refl owner ts)

end

mutual

/-- A type writes what it is once `Self` is replaced. -/
theorem Tree.writes_replaceSelf (owner : Tree) : ∀ t : Tree, Tree.Writes owner t (Tree.replaceSelf owner t)
  | .token t => .token t
  | .group _ inner => .group (writesAll_replaceSelfIn owner inner)
  | .phrase c parts => by
    rw [Tree.replaceSelf]
    split
    · exact .self ‹_›
    · exact .phrase (writesAll_replaceSelfIn owner parts)

theorem writesAll_replaceSelfIn (owner : Tree) : ∀ ts : List Tree, WritesAll owner ts (replaceSelfIn owner ts)
  | [] => .nil
  | t :: ts => .cons (Tree.writes_replaceSelf owner t) (writesAll_replaceSelfIn owner ts)

end

section

variable {name : String} {owner : Tree} (howner : owner = (TypeExpr.ofName name).tree)

include howner

/-- Nothing but `Self` writes the parts of the type `Self`, since the owner is no segment of a path. -/
theorem WritesAll.self_iff {parts parts' : List Tree} (h : WritesAll owner parts parts') :
    parts = [.phrase .segment [.token (.ident "Self")]] ↔ parts' = [.phrase .segment [.token (.ident "Self")]] := by
  constructor
  · rintro rfl
    obtain _ | ⟨hsegment, hrest⟩ := h
    cases hrest
    cases hsegment with
    | phrase hname =>
      obtain _ | ⟨hword, hrest⟩ := hname
      cases hrest
      cases hword with
      | token => rfl
      | self hself => cases hself
    | self hself => cases hself
  · rintro rfl
    obtain _ | ⟨hsegment, hrest⟩ := h
    cases hrest
    -- A part that stands for the owner would be a path, and is a segment; and so for the word in the segment.
    generalize hsegment' : Tree.phrase .segment [.token (.ident "Self")] = segment at hsegment
    cases hsegment with
    | token => cases hsegment'
    | group => cases hsegment'
    | self =>
      rw [howner] at hsegment'
      cases hsegment'
    | phrase hname =>
      cases hsegment'
      obtain _ | ⟨hword, hrest⟩ := hname
      cases hrest
      generalize hword' : Tree.token (.ident "Self") = word at hword
      cases hword with
      | token => rw [← hword']
      | group => cases hword'
      | phrase => cases hword'
      | self =>
        rw [howner] at hword'
        cases hword'

theorem WritesAll.isBareSelf_eq {c : Category} {parts parts' : List Tree} (h : WritesAll owner parts parts') :
    (Tree.phrase c parts).isBareSelf = (Tree.phrase c parts').isBareSelf := by
  rw [Bool.eq_iff_iff, Tree.isBareSelf_iff, Tree.isBareSelf_iff, Tree.phrase.injEq, Tree.phrase.injEq,
    h.self_iff howner]

/-- The owner has no `Self` in it, or is `Self`. -/
theorem Tree.replaceSelf_owner : Tree.replaceSelf owner owner = owner := by
  subst howner
  rw [TypeExpr.ofName, Tree.replaceSelf]
  split
  · rfl
  · rfl

end

mutual

/-- Types that differ in where they write `Self` are the same once it is replaced. -/
theorem Tree.Writes.replaceSelf_eq {name : String} {owner : Tree} (howner : owner = (TypeExpr.ofName name).tree) :
    ∀ {t t' : Tree}, Tree.Writes owner t t' → Tree.replaceSelf owner t = Tree.replaceSelf owner t'
  | _, _, .token _ => rfl
  | _, _, .group h => by rw [Tree.replaceSelf, Tree.replaceSelf, WritesAll.replaceSelfIn_eq howner h]
  | _, _, .phrase h => by
    rw [Tree.replaceSelf, Tree.replaceSelf, h.isBareSelf_eq howner, WritesAll.replaceSelfIn_eq howner h]
  | _, _, .self h => by
    rw [Tree.replaceSelf_owner howner, Tree.isBareSelf_iff.mp h]
    rfl

theorem WritesAll.replaceSelfIn_eq {name : String} {owner : Tree} (howner : owner = (TypeExpr.ofName name).tree) :
    ∀ {ts ts' : List Tree}, WritesAll owner ts ts' → replaceSelfIn owner ts = replaceSelfIn owner ts'
  | _, _, .nil => rfl
  | _, _, .cons h hs => by
    rw [replaceSelfIn, replaceSelfIn, Tree.Writes.replaceSelf_eq howner h, WritesAll.replaceSelfIn_eq howner hs]

end

end Syntax

namespace TypeExpr

/-- The type has no `Self` left that would stand for the owner. -/
def IsResolved (t owner : TypeExpr) : Prop := t.replaceSelf owner = t

variable {name : String} {owner t t' : TypeExpr}

theorem replaceSelf_eq_of_writes (howner : owner = .ofName name) (h : Syntax.Tree.Writes owner.tree t.tree t'.tree) :
    t.replaceSelf owner = t'.replaceSelf owner :=
  congrArg TypeExpr.mk (h.replaceSelf_eq (congrArg TypeExpr.tree howner))

theorem isResolved_replaceSelf (howner : owner = .ofName name) (t : TypeExpr) :
    (t.replaceSelf owner).IsResolved owner :=
  (replaceSelf_eq_of_writes howner (Syntax.Tree.writes_replaceSelf owner.tree t.tree)).symm

end TypeExpr

/-! ### Declarations from items -/

/-- The types of the parameters have no `Self` left. -/
def AllResolved (parameters : List Parameter) (owner : TypeExpr) : Prop :=
  ∀ p ∈ parameters, p.type.IsResolved owner

/-- The signature has no `Self` left. -/
structure Method.Resolved (m : Method) (owner : TypeExpr) : Prop where
  parameters : AllResolved m.parameters owner
  returns : ∀ t ∈ m.returns, t.IsResolved owner

/-- The declaration of a type that is a name, with no `Self` left in its functions. -/
structure Declaration.Collected (d : Declaration) : Prop where
  named : ∃ name, d.type = .ofName name
  constructor : ∀ c ∈ d.constructor, AllResolved c.parameters d.type
  methods : ∀ m ∈ d.methods, m.Resolved d.type

section

variable {d d' : Declaration}

/-- What an attribute may say: a marker, the base type where none is given yet, that the type serves as no
implementation, or nothing. -/
theorem Syntax.Attribute.addTo_cases {a : Syntax.Attribute} (h : a.addTo d = .ok d') :
    (a.name? = some "service" ∧ ∃ m, Marker.ofAttribute a.body = .ok m ∧ d' = { d with markers := d.markers ++ [m] }) ∨
    (a.name? = some "extends" ∧ d.base = none ∧ ∃ type, d' = { d with base := some type }) ∨
    (a.name? = some "abstract_service" ∧ d' = { d with withheld := true }) ∨
    (a.name? ≠ some "service" ∧ a.name? ≠ some "extends" ∧ a.name? ≠ some "abstract_service" ∧ d' = d) := by
  unfold Syntax.Attribute.addTo at h
  split at h
  next hname =>
    obtain ⟨m, hm, h⟩ := bind_eq_ok.mp h
    cases h
    exact .inl ⟨hname, m, hm, rfl⟩
  next hname =>
    -- A base type can be given once, and only in parentheses.
    cases hbase : d.base with
    | some base =>
      simp only [hbase, Option.isSome_some, if_true] at h
      cases h
    | none =>
      simp only [hbase, Option.isSome_none, Bool.false_eq_true, if_false] at h
      split at h
      · split at h
        · cases h
          exact .inr (.inl ⟨hname, rfl, _, rfl⟩)
        · cases h
      · cases h
  next hname =>
    split at h
    · cases h
      exact .inr (.inr (.inl ⟨hname, rfl⟩))
    · cases h
  next hservice hextends habstract =>
    cases h
    exact .inr (.inr (.inr ⟨hservice, hextends, habstract, rfl⟩))

/-- Attributes say nothing else about a type than its markers, its base, and whether it is withheld. -/
theorem Syntax.Attribute.addTo_frame {a : Syntax.Attribute} (h : a.addTo d = .ok d') :
    ∃ markers base withheld, d' = { d with markers, base, withheld } := by
  obtain ⟨-, m, -, rfl⟩ | ⟨-, -, type, rfl⟩ | ⟨-, rfl⟩ | ⟨-, -, -, rfl⟩ := Syntax.Attribute.addTo_cases h
  · exact ⟨_, _, _, rfl⟩
  · exact ⟨_, _, _, rfl⟩
  · exact ⟨_, _, _, rfl⟩
  · exact ⟨_, _, _, rfl⟩

theorem foldlM_addTo_frame {attributes : List Syntax.Attribute}
    (h : attributes.foldlM (fun d a => a.addTo d) d = .ok d') :
    ∃ markers base withheld, d' = { d with markers, base, withheld } := by
  induction attributes generalizing d with
  | nil =>
    cases h
    exact ⟨_, _, _, rfl⟩
  | cons a rest ih =>
    rw [List.foldlM_cons] at h
    obtain ⟨next, hnext, h⟩ := bind_eq_ok.mp h
    obtain ⟨_, _, _, rfl⟩ := Syntax.Attribute.addTo_frame hnext
    obtain ⟨_, _, _, rfl⟩ := ih h
    exact ⟨_, _, _, rfl⟩

theorem foldlM_addTo_functions {attributes : List Syntax.Attribute}
    (h : attributes.foldlM (fun d a => a.addTo d) d = .ok d') :
    d'.type = d.type ∧ d'.constructor = d.constructor ∧ d'.methods = d.methods := by
  obtain ⟨_, _, _, rfl⟩ := foldlM_addTo_frame h
  exact ⟨rfl, rfl, rfl⟩

theorem Syntax.Definition.collected {definition : Syntax.Definition} (h : definition.declaration = .ok d) :
    d.Collected := by
  obtain ⟨htype, hconstructor, hmethods⟩ := foldlM_addTo_functions h
  refine ⟨⟨definition.name, htype⟩, fun c hc => ?_, fun m hm => ?_⟩
  · rw [hconstructor] at hc
    cases hc
  · rw [hmethods] at hm
    cases hm

theorem Syntax.Function.resolved_method {owner : TypeExpr} {name : String} (howner : owner = .ofName name)
    (f : Syntax.Function) : (f.method owner).Resolved owner := by
  constructor
  · intro p hp
    obtain ⟨written, -, rfl⟩ := List.mem_map.mp hp
    exact TypeExpr.isResolved_replaceSelf howner _
  · intro t ht
    obtain ⟨written, -, rfl⟩ := Option.map_eq_some_iff.mp ht
    exact TypeExpr.isResolved_replaceSelf howner _

theorem Declaration.Collected.addMethod (h : d.Collected) {m : Method} (hm : m.Resolved d.type) :
    (d.addMethod m).Collected := by
  refine ⟨h.named, fun c hc => ?_, fun m' hm' => ?_⟩
  · -- The constructor is the one that was there, or is read off the new method.
    rw [Declaration.addMethod] at hc
    split at hc
    · exact h.constructor c (by simp [*])
    · split at hc
      · cases hc
        exact hm.parameters
      · cases hc
  · rcases List.mem_append.mp hm' with hm' | hm'
    · exact h.methods m' hm'
    · rwa [List.mem_singleton.mp hm']

theorem Declaration.Collected.addContract (h : d.Collected) (contract : TypeExpr) :
    (d.addContract contract).Collected := by
  unfold Declaration.addContract
  split
  · exact ⟨h.named, h.constructor, h.methods⟩
  · split
    · exact h
    · exact ⟨h.named, h.constructor, h.methods⟩

theorem Declaration.Collected.addMember (h : d.Collected) (m : Syntax.Member) : (m.addTo d).Collected := by
  cases m with
  | function f =>
    obtain ⟨name, hname⟩ := h.named
    exact h.addMethod (f.resolved_method hname)
  | other trees => exact h

theorem Declaration.Collected.addBlock (h : d.Collected) (block : Syntax.Implementation) :
    (block.addTo d).Collected := by
  unfold Syntax.Implementation.addTo
  split
  · split
    · exact h
    · exact h.addContract _
  · exact List.foldlRecOn (motive := Declaration.Collected) block.members _ h fun d hd m _ => hd.addMember m

end

theorem forall_mem_updateFirst {α : Type} {P : α → Prop} {test : α → Bool} {f : α → α} {xs : List α}
    (hf : ∀ x, P x → P (f x)) (h : ∀ x ∈ xs, P x) : ∀ x ∈ updateFirst test f xs, P x := by
  induction xs with
  | nil => exact h
  | cons x rest ih =>
    obtain ⟨hx, hrest⟩ := List.forall_mem_cons.mp h
    rw [updateFirst]
    split
    · exact List.forall_mem_cons.mpr ⟨hf x hx, hrest⟩
    · exact List.forall_mem_cons.mpr ⟨hx, ih hrest⟩

/-- What holds of the declarations that definitions are, and stays when blocks add to a declaration, holds of all. -/
theorem forall_of_declarationsOf {P : Declaration → Prop} {items : List Syntax.Item} {ds : List Declaration}
    (h : declarationsOf items = .ok ds)
    (hdefinition : ∀ definition d, .definition definition ∈ items → definition.declaration = .ok d → P d)
    (hblock : ∀ block d, .implementation block ∈ items → P d → P (block.addTo d)) : ∀ d ∈ ds, P d := by
  obtain ⟨declared, hdeclared, h⟩ := bind_eq_ok.mp h
  cases h
  refine List.foldlRecOn (motive := fun ds => ∀ d ∈ ds, P d) items _ (fun d hd => ?_) fun ds hds i hi => ?_
  · -- Only a definition is a declaration.
    obtain ⟨declaration, hmem, rfl⟩ := List.mem_filterMap.mp hd
    obtain ⟨i, hi, hdeclaration⟩ := exists_rel_of_mem_right (mapM_eq_ok.mp hdeclared) hmem
    cases i with
    | definition definition =>
      cases hok : definition.declaration with
      | ok d' =>
        rw [Syntax.Item.declaration?, hok] at hdeclaration
        cases hdeclaration
        exact hdefinition definition _ hi hok
      | error e =>
        rw [Syntax.Item.declaration?, hok] at hdeclaration
        cases hdeclaration
    | implementation block => cases hdeclaration
    | other trees => cases hdeclaration
  · unfold Syntax.Item.addTo
    split
    · split
      · exact forall_mem_updateFirst (fun d hd => hblock _ d hi hd) hds
      · exact hds
    · exact hds

/-- Declarations from items have no `Self` left in their functions. -/
theorem collected_of_declarationsOf {items : List Syntax.Item} {ds : List Declaration}
    (h : declarationsOf items = .ok ds) : ∀ d ∈ ds, d.Collected :=
  forall_of_declarationsOf h (fun definition _ _ hok => definition.collected hok) fun block _ _ hd => hd.addBlock block

/-! ### Declarations from a manifest -/

/-- The text is the type. -/
def IsText (text : String) (t : TypeExpr) : Prop := TypeExpr.ofText text = .ok t

/-- The text is the type, where it may say `Self` for the owner. -/
def IsTextWithin (owner : TypeExpr) (text : String) (t : TypeExpr) : Prop :=
  ∃ s, IsText text s ∧ Syntax.Tree.Writes owner.tree s.tree t.tree

/-- The texts are the types of the parameters. -/
def AreParameters (owner : TypeExpr) : List String → List Parameter → Prop :=
  List.Forall₂ fun text p => IsTextWithin owner text p.type

/-- The entry says what the marker says. -/
structure MarkerEntry.Describes (e : MarkerEntry) (m : Marker) : Prop where
  lifetime : e.lifetime = m.lifetime
  key : Option.Rel IsText e.key m.key

/-- The entry says what the constructor says. -/
structure ConstructorEntry.Describes (owner : TypeExpr) (e : ConstructorEntry) (c : Constructor) : Prop where
  name : e.name = c.name
  parameters : AreParameters owner e.parameters c.parameters

/-- The entry says what the method says. -/
structure MethodEntry.Describes (owner : TypeExpr) (e : MethodEntry) (m : Method) : Prop where
  name : e.name = m.name
  isStatic : e.isStatic = m.isStatic
  isFactory : e.isFactory = m.isFactory
  parameters : AreParameters owner e.parameters m.parameters
  returns : Option.Rel (IsTextWithin owner) e.returns m.returns

/-- The entry lists the contracts of the declaration in their order, and a contract that makes the type disposable
exactly where the declaration is. -/
def TypeEntry.ListsContracts (e : TypeEntry) (d : Declaration) : Prop :=
  ∃ listed, List.Forall₂ IsText e.contracts listed ∧
    listed.filter (!isDisposableContract ·) = d.contracts ∧
    (d.disposable = true ↔ ∃ contract ∈ listed, isDisposableContract contract = true)

/-- The entry says what the declaration says. -/
structure TypeEntry.Describes (e : TypeEntry) (d : Declaration) : Prop where
  name : IsText e.name d.type
  isTrait : e.isTrait = true ↔ d.kind = .trait
  isEnum : e.isEnum = true ↔ d.kind = .enum
  withheld : d.withheld = true ↔ d.kind = .trait ∨ e.isAbstract = true
  unit : e.unit = d.unit
  base : Option.Rel IsText e.base d.base
  contracts : e.ListsContracts d
  /-- The entry may say so in a word of its own besides. -/
  disposable : e.disposable = true → d.disposable = true
  markers : List.Forall₂ MarkerEntry.Describes e.markers d.markers
  constructor : Option.Rel (ConstructorEntry.Describes d.type) e.constructor d.constructor
  methods : List.Forall₂ (MethodEntry.Describes d.type) e.methods d.methods

section

variable {name : String} {owner : TypeExpr}

theorem optionalType_eq_ok {text : Option String} {t : Option TypeExpr} (h : Option.Rel IsText text t) :
    optionalType text = .ok t := by
  cases h with
  | none => rfl
  | some h =>
    rw [optionalType, h]
    rfl

theorem IsTextWithin.exists_replaceSelf {text : String} {t : TypeExpr} (howner : owner = .ofName name)
    (h : IsTextWithin owner text t) (ht : t.IsResolved owner) :
    ∃ s, TypeExpr.ofText text = .ok s ∧ s.replaceSelf owner = t := by
  obtain ⟨s, hs, hwrites⟩ := h
  exact ⟨s, hs, (TypeExpr.replaceSelf_eq_of_writes howner hwrites).trans ht⟩

/-- The parameters that texts are differ from the described ones in their names. -/
theorem AreParameters.parametersOf {texts : List String} {parameters : List Parameter} (howner : owner = .ofName name)
    (h : AreParameters owner texts parameters) (hresolved : AllResolved parameters owner) (position : Nat) :
    ∃ parameters', parametersOf owner position texts = .ok parameters' ∧
      parameters'.map Parameter.nameless = parameters.map Parameter.nameless := by
  induction h generalizing position with
  | nil => exact ⟨[], rfl, rfl⟩
  | @cons text p texts parameters htext _ ih =>
    obtain ⟨hp, hrest⟩ := List.forall_mem_cons.mp hresolved
    obtain ⟨s, hs, hreplaced⟩ := htext.exists_replaceSelf howner hp
    obtain ⟨more, hmore, hnames⟩ := ih hrest (position + 1)
    refine ⟨⟨"arg" ++ toString position, s.replaceSelf owner⟩ :: more, ?_, ?_⟩
    · rw [ServiceContainer.parametersOf, hs]
      change (ServiceContainer.parametersOf owner (position + 1) texts >>= _) = _
      rw [hmore]
      rfl
    · rw [List.map_cons, List.map_cons, hnames, hreplaced]
      rfl

theorem MarkerEntry.Describes.marker {e : MarkerEntry} {m : Marker} (h : e.Describes m) : e.marker = .ok m := by
  rw [MarkerEntry.marker, optionalType_eq_ok h.key, h.lifetime]
  rfl

theorem ConstructorEntry.Describes.exists_constructor {e : ConstructorEntry} {c : Constructor}
    (howner : owner = .ofName name) (h : e.Describes owner c) (hresolved : AllResolved c.parameters owner) :
    ∃ c', e.constructor owner = .ok c' ∧ c'.nameless = c.nameless := by
  obtain ⟨parameters, hparameters, hnames⟩ := h.parameters.parametersOf howner hresolved 0
  refine ⟨⟨e.name, parameters⟩, ?_, ?_⟩
  · rw [ConstructorEntry.constructor, hparameters]
    rfl
  · rw [Constructor.nameless, Constructor.nameless, hnames, h.name]

theorem MethodEntry.Describes.exists_method {e : MethodEntry} {m : Method} (howner : owner = .ofName name)
    (h : e.Describes owner m) (hresolved : m.Resolved owner) :
    ∃ m', e.method owner = .ok m' ∧ m'.nameless = m.nameless := by
  obtain ⟨name, isStatic, isFactory, parameters, returns⟩ := m
  obtain ⟨parameters', hparameters, hnames⟩ := h.parameters.parametersOf howner hresolved.parameters 0
  obtain ⟨written, hwritten, hreturns⟩ :
      ∃ written, optionalType e.returns = .ok written ∧ written.map (·.replaceSelf owner) = returns := by
    obtain ⟨-, -, -, -, hreturns⟩ := h
    generalize e.returns = text at hreturns
    cases hreturns with
    | none => exact ⟨none, rfl, rfl⟩
    | some htext =>
      obtain ⟨s, hs, hreplaced⟩ := htext.exists_replaceSelf howner (hresolved.returns _ rfl)
      exact ⟨some s, optionalType_eq_ok (.some hs), congrArg some hreplaced⟩
  refine ⟨⟨e.name, e.isStatic, e.isFactory, parameters', returns⟩, ?_, ?_⟩
  · rw [MethodEntry.method, hwritten]
    change (ServiceContainer.parametersOf owner 0 e.parameters >>= _) = _
    rw [hparameters, ← hreturns]
    rfl
  · rw [Method.nameless, Method.nameless, hnames, h.name, h.isStatic, h.isFactory]

end

/-- Entries one by one, whose results agree with what they describe up to a part that is left out. -/
theorem exists_mapM {α β γ : Type} {f : α → Except GenerationError β} {g : β → γ} {as : List α} {bs : List β}
    (h : List.Forall₂ (fun a b => ∃ b', f a = .ok b' ∧ g b' = g b) as bs) :
    ∃ bs', as.mapM f = .ok bs' ∧ bs'.map g = bs.map g := by
  induction h with
  | nil => exact ⟨[], rfl, rfl⟩
  | cons hb _ ih =>
    obtain ⟨b', hf, hg⟩ := hb
    obtain ⟨bs', hfs, hgs⟩ := ih
    refine ⟨b' :: bs', ?_, ?_⟩
    · rw [List.mapM_cons, hf, hfs]
      rfl
    · rw [List.map_cons, List.map_cons, hg, hgs]

section

variable {e : TypeEntry} {d : Declaration}

theorem TypeEntry.Describes.type (h : e.Describes d) (hd : d.Collected) : e.type = .ok d.type := by
  obtain ⟨name, hname⟩ := hd.named
  rw [TypeEntry.type, h.name, hname]
  rfl

theorem TypeEntry.Describes.kind (h : e.Describes d) : e.kind = .ok d.kind := by
  have htrait := h.isTrait
  have henum := h.isEnum
  rw [TypeEntry.kind]
  cases hkind : d.kind <;> rw [hkind] at htrait henum <;> simp at htrait henum <;> rw [htrait, henum]

theorem TypeEntry.Describes.withheld_eq (h : e.Describes d) :
    (decide (d.kind = .trait) || e.isAbstract) = d.withheld := by
  rw [Bool.eq_iff_iff, Bool.or_eq_true, decide_eq_true_iff]
  exact h.withheld.symm

/-- The word of an entry that a type is disposable and a contract that says so come to the same. -/
theorem TypeEntry.Describes.disposable_eq (h : e.Describes d) {listed : List TypeExpr}
    (hlisted : d.disposable = true ↔ ∃ contract ∈ listed, isDisposableContract contract = true) :
    (e.disposable || listed.any isDisposableContract) = d.disposable := by
  rw [Bool.eq_iff_iff, Bool.or_eq_true, List.any_eq_true, ← hlisted]
  exact or_iff_right_of_imp h.disposable

/-- The declaration of an entry that describes one is the described one up to the names of parameters. -/
theorem TypeEntry.Describes.exists_declaration (h : e.Describes d) (hd : d.Collected) :
    ∃ d', e.declaration = .ok d' ∧ d'.nameless = d.nameless := by
  obtain ⟨name, howner⟩ := hd.named
  obtain ⟨listed, htexts, hcontracts, hdisposable⟩ := h.contracts
  have hmarkers : e.markers.mapM MarkerEntry.marker = .ok d.markers :=
    mapM_eq_ok.mpr (h.markers.imp fun _ _ hm => hm.marker)
  obtain ⟨constructor, hconstructor, hconstructors⟩ :
      ∃ constructor, optionalConstructor d.type e.constructor = .ok constructor ∧
        constructor.map Constructor.nameless = d.constructor.map Constructor.nameless := by
    have hdescribes := h.constructor
    have hresolved := hd.constructor
    generalize e.constructor = entry, d.constructor = described at hdescribes hresolved
    cases hdescribes with
    | none => exact ⟨none, rfl, rfl⟩
    | some hc =>
      obtain ⟨c', hc', hnames⟩ := hc.exists_constructor howner (hresolved _ rfl)
      refine ⟨some c', ?_, congrArg some hnames⟩
      rw [optionalConstructor, hc']
      rfl
  obtain ⟨methods, hmethods, hmethods'⟩ :
      ∃ methods, e.methods.mapM (MethodEntry.method d.type) = .ok methods ∧
        methods.map Method.nameless = d.methods.map Method.nameless := by
    refine exists_mapM ?_
    have hdescribes := h.methods
    have hresolved := hd.methods
    generalize e.methods = entries, d.methods = described at hdescribes hresolved
    induction hdescribes with
    | nil => exact .nil
    | cons hm _ ih =>
      obtain ⟨hfirst, hrest⟩ := List.forall_mem_cons.mp hresolved
      exact .cons (hm.exists_method howner hfirst) (ih hrest)
  -- What the entry is read as differs from the described declaration in these two fields only.
  refine ⟨{ d with constructor, methods }, ?_, ?_⟩
  · refine bind_eq_ok.mpr ⟨_, h.type hd, bind_eq_ok.mpr ⟨_, h.kind, bind_eq_ok.mpr ⟨_, optionalType_eq_ok h.base, ?_⟩⟩⟩
    refine bind_eq_ok.mpr ⟨_, mapM_eq_ok.mpr htexts, bind_eq_ok.mpr ⟨_, hmarkers, ?_⟩⟩
    refine bind_eq_ok.mpr ⟨_, hconstructor, bind_eq_ok.mpr ⟨_, hmethods, ?_⟩⟩
    rw [h.withheld_eq, h.disposable_eq hdisposable, hcontracts, h.unit]
    rfl
  · rw [Declaration.nameless, Declaration.nameless, hconstructors, hmethods']

/-- Where the entries of a manifest describe the declarations of some items one by one, the declarations of both are the
same up to the names of parameters, and generate the same container or fail with the same kind of error. -/
theorem declarations_agree {items : List Syntax.Item} {ds : List Declaration} {m : Manifest}
    (hitems : declarationsOf items = .ok ds) (hm : List.Forall₂ TypeEntry.Describes m.types ds) :
    ∃ ds', m.declarations = .ok ds' ∧ ds'.map Declaration.nameless = ds.map Declaration.nameless ∧
      ∀ o, Alike Eq (generate o ds') (generate o ds) := by
  have hcollected := collected_of_declarationsOf hitems
  have heach : List.Forall₂ (fun e d => ∃ d', TypeEntry.declaration e = .ok d' ∧ d'.nameless = d.nameless)
      m.types ds := by
    clear hitems
    generalize m.types = entries at hm
    induction hm with
    | nil => exact .nil
    | cons he _ ih =>
      obtain ⟨hfirst, hrest⟩ := List.forall_mem_cons.mp hcollected
      exact .cons (he.exists_declaration hfirst) (ih hrest)
  obtain ⟨ds', hds', hnames⟩ := exists_mapM heach
  exact ⟨ds', hds', hnames, generate_alike hnames⟩

end

/-! ### A session in both ways

A clock, and a session that is made from a clock and disposed of, as the items of a module and as a manifest. The two
differ in where they write `Self`. -/

namespace Sample

open Syntax

/-- The type that is a name, as a tree. -/
def typeNamed (name : String) : Tree := (TypeExpr.ofName name).tree

/-- A marker of a lifetime as an attribute. -/
def markerAttribute (lifetime : String) : Attribute :=
  { inner := false, body := ⟨[.ident "service"], .list .paren [.ident lifetime]⟩ }

/-- A type without fields that has a marker of a lifetime. -/
def defined (name lifetime : String) : Item :=
  .definition
    { attributes := [markerAttribute lifetime], kind := .struct, name, generic := false, unit := true, lead := [],
      body := none }

/-- A function whose types are names. -/
def function (name : String) (parameters : List (String × String)) (returns : String) : Member :=
  .function
    { attributes := [], lead := [], body := [],
      signature :=
        { name, receiver := false, parameters := parameters.map fun p => ⟨some p.1, typeNamed p.2⟩,
          returns := some (typeNamed returns), trees := [] } }

/-- An implementation block of a type, for a trait or for the type alone. -/
def implemented (target : String) (contract : Option String) (members : List Member) : Item :=
  .implementation
    { attributes := [], lead := [], contract := contract.map fun c => ⟨false, typeNamed c⟩,
      target := typeNamed target, members }

/-- The clock and the session as items. -/
def written : List Item :=
  [defined "Clock" "singleton", defined "Session" "scoped",
   implemented "Session" none
     [function "new" [("clock", "Clock")] "Self", function "again" [("session", "Session")] "Session"],
   implemented "Session" (some "Disposable") []]

/-- The clock and the session as a manifest. -/
def described : Manifest where
  types :=
    [{ name := "Clock", unit := true, markers := [{ lifetime := some "singleton" }] },
     { name := "Session", unit := true, contracts := ["Disposable"], markers := [{ lifetime := some "scoped" }],
       constructor := some { parameters := ["Clock"] },
       methods :=
         [{ name := "new", parameters := ["Clock"], returns := some "Session" },
          { name := "again", parameters := ["Self"], returns := some "Self" }] }]

/-- The declaration of the clock. -/
def clockDeclaration : Declaration :=
  { Declaration.ofType (.ofName "Clock") .struct with unit := true, markers := [⟨some "singleton", none⟩] }

/-- The declaration of the session, which has a constructor and a function that takes a session. -/
def sessionDeclaration : Declaration :=
  { Declaration.ofType (.ofName "Session") .struct with
    unit := true, disposable := true, markers := [⟨some "scoped", none⟩],
    constructor := some ⟨"new", [⟨"clock", .ofName "Clock"⟩]⟩,
    methods :=
      [⟨"new", true, false, [⟨"clock", .ofName "Clock"⟩], some (.ofName "Session")⟩,
       ⟨"again", true, false, [⟨"session", .ofName "Session"⟩], some (.ofName "Session")⟩] }

theorem declarationsOf_written : declarationsOf written = .ok [clockDeclaration, sessionDeclaration] := rfl

/-- The text is read as the type that is this name. -/
def readsAsName (text : String) : Bool :=
  match TypeExpr.ofText text with
  | .ok ⟨.phrase .typePath [.phrase .segment [.token (.ident name)]]⟩ => name == text
  | _ => false

theorem isText_ofName {text : String} (h : readsAsName text = true) : IsText text (.ofName text) := by
  unfold readsAsName at h
  split at h
  · next name hname =>
    rw [beq_iff_eq.mp h] at hname
    exact hname
  · cases h

theorem isTextWithin_of_isText {owner t : TypeExpr} {text : String} (h : IsText text t) : IsTextWithin owner text t :=
  ⟨t, h, .refl _ _⟩

theorem isTextWithin_self {owner : TypeExpr} : IsTextWithin owner "Self" owner :=
  ⟨.ofName "Self", isText_ofName (by decide +kernel), .self rfl⟩

theorem described_describes :
    List.Forall₂ TypeEntry.Describes described.types [clockDeclaration, sessionDeclaration] := by
  have hclock : IsText "Clock" (.ofName "Clock") := isText_ofName (by decide +kernel)
  have hsession : IsText "Session" (.ofName "Session") := isText_ofName (by decide +kernel)
  have hdisposable : IsText "Disposable" (.ofName "Disposable") := isText_ofName (by decide +kernel)
  refine .cons ?_ (.cons ?_ .nil)
  · exact
      { name := hclock
        isTrait := by decide
        isEnum := by decide
        withheld := by decide
        unit := rfl
        base := .none
        contracts := ⟨[], .nil, rfl, by decide⟩
        disposable := nofun
        markers := .cons ⟨rfl, .none⟩ .nil
        constructor := .none
        methods := .nil }
  · exact
      { name := hsession
        isTrait := by decide
        isEnum := by decide
        withheld := by decide
        unit := rfl
        base := .none
        contracts := ⟨[.ofName "Disposable"], .cons hdisposable .nil, rfl, by decide⟩
        disposable := fun _ => rfl
        markers := .cons ⟨rfl, .none⟩ .nil
        constructor := .some ⟨rfl, .cons (isTextWithin_of_isText hclock) .nil⟩
        methods :=
          .cons ⟨rfl, rfl, rfl, .cons (isTextWithin_of_isText hclock) .nil, .some (isTextWithin_of_isText hsession)⟩
            (.cons ⟨rfl, rfl, rfl, .cons isTextWithin_self .nil, .some isTextWithin_self⟩ .nil) }

end Sample

theorem declarations_agree_session :
    declarationsOf Sample.written = .ok [Sample.clockDeclaration, Sample.sessionDeclaration] ∧
    ∃ ds', Sample.described.declarations = .ok ds' ∧
      ds'.map Declaration.nameless = [Sample.clockDeclaration, Sample.sessionDeclaration].map Declaration.nameless ∧
      ∀ o, Alike Eq (generate o ds') (generate o [Sample.clockDeclaration, Sample.sessionDeclaration]) :=
  ⟨Sample.declarationsOf_written, declarations_agree Sample.declarationsOf_written Sample.described_describes⟩

end ServiceContainer
