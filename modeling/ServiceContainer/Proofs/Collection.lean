import ServiceContainer.Proofs.FrontEnds

/-!
# What a declaration collects from implementation blocks

Implementation blocks are for the first struct or enum of the name that their target ends with, wherever in the module
they stand. What such a declaration ends up with is read off its blocks alone, so that items may change places as long
as the definitions keep their order and the blocks of each type keep theirs.

## Main definitions

* `definitionsOf`, `blocksFor` — the definitions among items, and the blocks for types of a name
* `ownFunctions`, `contractPaths` — the functions and the traits of blocks
* `Declaration.CollectedFrom` — what a declaration has from its blocks

## Main statements

* `getElem?_foldl_addTo` — the declaration at a position after all blocks
* `Declaration.collectedFrom_foldl` — a declaration that had nothing before its blocks
* `collectedFrom_of_isFirst` — the first struct or enum of a name has what the blocks for the name give
* `declarationsOf_congr` — the declarations do not depend on where the blocks stand
* `declarationsOf_blocks` — declarations and their blocks, in any order of the items
-/

namespace ServiceContainer

open Syntax (Definition Function Implementation Item Member)

/-! ### Definitions and blocks -/

namespace Syntax

/-- The definition that an item is. -/
def Item.definition? : Item → Option Definition
  | .definition d => some d
  | _ => none

/-- The definitions among items. -/
def definitionsOf (items : List Item) : List Definition := items.filterMap Item.definition?

/-- The implementation block that an item is, if it is one for types of the name. -/
def Item.blockFor? (name : String) : Item → Option Implementation
  | .implementation b => if TypeExpr.simpleName? ⟨b.target⟩ = some name then some b else none
  | _ => none

/-- The implementation blocks for types of a name. -/
def blocksFor (name : String) (items : List Item) : List Implementation := items.filterMap (Item.blockFor? name)

/-- The function that a member is. -/
def Member.function? : Member → Option Function
  | .function f => some f
  | .other _ => none

/-- The functions of the blocks that are for no trait. -/
def ownFunctions (blocks : List Implementation) : List Function :=
  (blocks.filter (·.contract.isNone)).flatMap fun b => b.members.filterMap Member.function?

/-- The trait that a block implements. A block that denies a trait implements none. -/
def Implementation.contractPath? (b : Implementation) : Option TypeExpr :=
  b.contract.bind fun c => if c.negative then none else some ⟨c.type⟩

/-- The traits that blocks implement. -/
def contractPaths (blocks : List Implementation) : List TypeExpr := blocks.filterMap Implementation.contractPath?

/-- The function has no receiver, is marked as no factory, and returns the type, which may be written `Self`. -/
structure Function.Constructs (f : Function) (owner : TypeExpr) : Prop where
  static : f.signature.receiver = false
  unmarked : ∀ a ∈ f.attributes, a.name? ≠ some "factory"
  returns : ∃ t ∈ f.signature.returns, (TypeExpr.replaceSelf ⟨t⟩ owner).display = owner.display

/-- The function as a constructor of a type, with `Self` replaced in its parameters. -/
def Function.asConstructor (owner : TypeExpr) (f : Function) : Constructor where
  name := f.signature.name
  parameters := f.signature.parameters.map fun p => ⟨p.name.getD "_", TypeExpr.replaceSelf ⟨p.type⟩ owner⟩

/-- The first of the functions that constructs values of the type is its constructor; without any there is none. -/
inductive FirstConstructor (owner : TypeExpr) : List Function → Option Constructor → Prop
  | none {functions : List Function} (h : ∀ f ∈ functions, ¬ f.Constructs owner) : FirstConstructor owner functions none
  | some {before after : List Function} {f : Function} (hbefore : ∀ g ∈ before, ¬ g.Constructs owner)
    (h : f.Constructs owner) : FirstConstructor owner (before ++ f :: after) (some (f.asConstructor owner))

end Syntax

open Syntax (definitionsOf blocksFor ownFunctions contractPaths FirstConstructor)

/-- Each type of a list at its first occurrence. -/
def distinct : List TypeExpr → List TypeExpr
  | [] => []
  | t :: ts => t :: (distinct ts).filter (·.display ≠ t.display)

/-- The declaration has its functions, constructor and contracts from blocks. -/
structure Declaration.CollectedFrom (d : Declaration) (blocks : List Implementation) : Prop where
  methods : d.methods = (ownFunctions blocks).map (·.method d.type)
  constructor : FirstConstructor d.type (ownFunctions blocks) d.constructor
  contracts : d.contracts = distinct ((contractPaths blocks).filter (·.simpleName? ≠ some "Disposable"))
  disposable : d.disposable = true ↔ ∃ t ∈ contractPaths blocks, t.simpleName? = some "Disposable"

/-! ### The declaration that a block is for -/

theorem getElem?_updateFirst {α : Type} (test : α → Bool) (f : α → α) (xs : List α) (i : Nat) :
    (updateFirst test f xs)[i]? =
      xs[i]?.map fun x => if test x = true ∧ ∀ y ∈ xs.take i, test y = false then f x else x := by
  induction xs generalizing i with
  | nil => simp [updateFirst]
  | cons x rest ih =>
    rw [updateFirst]
    by_cases hx : test x = true
    · -- Nothing behind the first element changes.
      rw [if_pos hx]
      cases i with
      | zero => simp [hx]
      | succ i => simp [hx]
    · rw [if_neg hx]
      cases i with
      | zero => simp [hx]
      | succ i => simp [ih, hx]

/-- What implementation blocks never change about a declaration. -/
def Declaration.head (d : Declaration) : TypeExpr × TypeKind := (d.type, d.kind)

/-- At the position, the declaration is the first struct or enum of its name. -/
def Declaration.IsFirst (d : Declaration) (ds : List Declaration) (i : Nat) : Prop :=
  d.kind ≠ .trait ∧ ∀ e ∈ ds.take i, e.kind ≠ .trait → e.definitionName ≠ d.definitionName

instance (d : Declaration) (ds : List Declaration) (i : Nat) : Decidable (d.IsFirst ds i) :=
  inferInstanceAs (Decidable (_ ∧ _))

section

variable {d d' : Declaration} {name : String}

theorem Declaration.isTargetOf_iff : d.isTargetOf name = true ↔ d.kind ≠ .trait ∧ d.definitionName = name := by
  simp [Declaration.isTargetOf]

theorem Declaration.definitionName_of_head (h : d'.head = d.head) : d'.definitionName = d.definitionName := by
  have htype : d'.type = d.type := congrArg Prod.fst h
  rw [Declaration.definitionName, Declaration.definitionName, htype]

theorem Declaration.head_addContract (d : Declaration) (contract : TypeExpr) :
    (d.addContract contract).head = d.head := by
  unfold Declaration.addContract
  split
  · rfl
  · split <;> rfl

theorem Declaration.head_foldl_members (d : Declaration) (members : List Member) :
    (members.foldl (fun d m => m.addTo d) d).head = d.head := by
  induction members generalizing d with
  | nil => rfl
  | cons m rest ih =>
    rw [List.foldl_cons, ih]
    cases m <;> rfl

theorem Syntax.Implementation.head_addTo (b : Implementation) (d : Declaration) : (b.addTo d).head = d.head := by
  unfold Syntax.Implementation.addTo
  split
  · split
    · rfl
    · exact d.head_addContract _
  · exact d.head_foldl_members _

theorem Syntax.Implementation.head_foldl_addTo (blocks : List Implementation) (d : Declaration) :
    (blocks.foldl (fun d b => b.addTo d) d).head = d.head := by
  induction blocks generalizing d with
  | nil => rfl
  | cons b rest ih => rw [List.foldl_cons, ih, b.head_addTo]

/-- The first place of a name depends on nothing that blocks change. -/
theorem Declaration.isFirst_congr {ds ds' : List Declaration} (hds : ds'.map Declaration.head = ds.map Declaration.head)
    (h : d'.head = d.head) (i : Nat) : d'.IsFirst ds' i ↔ d.IsFirst ds i := by
  have htake : (ds'.take i).map Declaration.head = (ds.take i).map Declaration.head := by
    rw [List.map_take, hds, List.map_take]
  -- What is asked of the declarations before the position is asked of their heads.
  have hbefore : ∀ {es : List Declaration}, (∀ e ∈ es, e.kind ≠ .trait → e.definitionName ≠ d.definitionName) ↔
      ∀ p ∈ es.map Declaration.head, p.2 ≠ .trait → (Declaration.ofType p.1 p.2).definitionName ≠ d.definitionName := by
    intro es
    simp [Declaration.head, Declaration.definitionName, Declaration.ofType]
  unfold Declaration.IsFirst
  rw [Declaration.definitionName_of_head h, hbefore, htake, ← hbefore]
  exact and_congr_left fun _ => not_congr (by rw [show d'.kind = d.kind from congrArg Prod.snd h])

end

/-- An item adds its block, if it is one, to the first declaration of the name. -/
theorem Syntax.Item.getElem?_addTo (item : Item) (ds : List Declaration) (i : Nat) :
    (item.addTo ds)[i]? = ds[i]?.map fun d =>
      if d.IsFirst ds i then (item.blockFor? d.definitionName).toList.foldl (fun d b => b.addTo d) d else d := by
  cases item with
  | definition _ => simp [Syntax.Item.addTo, Syntax.Item.blockFor?]
  | other _ => simp [Syntax.Item.addTo, Syntax.Item.blockFor?]
  | implementation b =>
    simp only [Syntax.Item.addTo, Syntax.Item.blockFor?]
    cases TypeExpr.simpleName? ⟨b.target⟩ with
    | none => simp
    | some name =>
      rw [getElem?_updateFirst]
      congr 1
      funext d
      by_cases hd : d.definitionName = name
      · -- The declarations before that are no targets are traits and those of other names.
        subst hd
        have hfirst : (d.isTargetOf d.definitionName = true ∧ ∀ e ∈ ds.take i, e.isTargetOf d.definitionName = false) ↔
            d.IsFirst ds i := by
          simp [Declaration.IsFirst, Declaration.isTargetOf]
        simp [hfirst]
      · have hne : ¬ d.isTargetOf name = true := fun h => hd (Declaration.isTargetOf_iff.mp h).2
        simp [hne, Ne.symm hd]

theorem head_ite_foldl_addTo (first : Prop) [Decidable first] (blocks : List Implementation) (d : Declaration) :
    (if first then blocks.foldl (fun d b => b.addTo d) d else d).head = d.head := by
  split
  · exact Syntax.Implementation.head_foldl_addTo blocks d
  · rfl

theorem Syntax.Item.heads_addTo (item : Item) (ds : List Declaration) :
    (item.addTo ds).map Declaration.head = ds.map Declaration.head := by
  apply List.ext_getElem?
  intro i
  rw [List.getElem?_map, List.getElem?_map, item.getElem?_addTo, Option.map_map]
  congr 1
  funext d
  exact head_ite_foldl_addTo _ _ d

theorem heads_foldl_addTo (items : List Item) (ds : List Declaration) :
    (items.foldl (fun ds i => i.addTo ds) ds).map Declaration.head = ds.map Declaration.head := by
  induction items generalizing ds with
  | nil => rfl
  | cons item rest ih => rw [List.foldl_cons, ih, item.heads_addTo]

/-- The declaration at a position after all blocks: the first one of its name has those for its name, in their order. -/
theorem getElem?_foldl_addTo (items : List Item) (ds : List Declaration) (i : Nat) :
    (items.foldl (fun ds i => i.addTo ds) ds)[i]? = ds[i]?.map fun d =>
      if d.IsFirst ds i then (blocksFor d.definitionName items).foldl (fun d b => b.addTo d) d else d := by
  induction items generalizing ds with
  | nil => simp [blocksFor]
  | cons item rest ih =>
    rw [List.foldl_cons, ih, item.getElem?_addTo, Option.map_map]
    congr 1
    funext d
    rw [Function.comp_apply]
    by_cases hd : d.IsFirst ds i
    · -- The first of a name is still the first after the item.
      have hhead := Syntax.Implementation.head_foldl_addTo (item.blockFor? d.definitionName).toList d
      have hfirst := (Declaration.isFirst_congr (item.heads_addTo ds) hhead i).mpr hd
      rw [if_pos hd, if_pos hd, if_pos hfirst, Declaration.definitionName_of_head hhead, ← List.foldl_append]
      congr 1
      cases hblock : item.blockFor? d.definitionName with
      | none => simp [blocksFor, hblock]
      | some b => simp [blocksFor, hblock]
    · have hfirst := mt (Declaration.isFirst_congr (item.heads_addTo ds) (rfl : d.head = d.head) i).mp hd
      rw [if_neg hd, if_neg hd, if_neg hfirst]

/-! ### What blocks add -/

section

variable {known : List TypeExpr} {t : TypeExpr}

theorem distinct_cons_of_known (h : ∃ c ∈ known, c.display = t.display) (ts : List TypeExpr) :
    (distinct (t :: ts)).filter (fun u => ∀ c ∈ known, c.display ≠ u.display) =
      (distinct ts).filter fun u => ∀ c ∈ known, c.display ≠ u.display := by
  obtain ⟨c, hc, hct⟩ := h
  rw [distinct, List.filter_cons_of_neg (by simpa using ⟨c, hc, hct⟩), List.filter_filter]
  apply List.filter_congr
  intro u _
  rw [← Bool.decide_and, decide_eq_decide]
  -- What displays like the new type displays like a known one.
  exact ⟨And.left, fun hu => ⟨hu, fun hut => hu c hc (hct.trans hut.symm)⟩⟩

theorem distinct_cons_of_new (h : ∀ c ∈ known, c.display ≠ t.display) (ts : List TypeExpr) :
    (distinct (t :: ts)).filter (fun u => ∀ c ∈ known, c.display ≠ u.display) =
      t :: (distinct ts).filter fun u => ∀ c ∈ known ++ [t], c.display ≠ u.display := by
  rw [distinct, List.filter_cons_of_pos (by simpa using h), List.filter_filter]
  congr 1
  apply List.filter_congr
  intro u _
  rw [← Bool.decide_and, decide_eq_decide, List.forall_mem_append, List.forall_mem_singleton]
  exact and_congr_right fun _ => ne_comm

end

namespace Declaration

variable {d : Declaration}

/-- Functions and contracts are added to different parts of a declaration. -/
theorem addMethod_addContract (d : Declaration) (m : Method) (contract : TypeExpr) :
    (d.addContract contract).addMethod m = (d.addMethod m).addContract contract := by
  unfold addContract
  split
  · rfl
  · split
    next h => rw [if_pos (show (d.addMethod m).contracts.any (· == contract) = true from h)]
    next h =>
      rw [if_neg (show ¬ (d.addMethod m).contracts.any (· == contract) = true from h)]
      rfl

theorem foldl_addMethod_addContract (methods : List Method) (d : Declaration) (contract : TypeExpr) :
    methods.foldl addMethod (d.addContract contract) = (methods.foldl addMethod d).addContract contract := by
  induction methods generalizing d with
  | nil => rfl
  | cons m rest ih => rw [List.foldl_cons, addMethod_addContract, ih, List.foldl_cons]

theorem foldl_members (members : List Member) (d : Declaration) :
    members.foldl (fun d m => m.addTo d) d =
      ((members.filterMap Member.function?).map (·.method d.type)).foldl addMethod d := by
  induction members generalizing d with
  | nil => rfl
  | cons m rest ih =>
    rw [List.foldl_cons, ih]
    cases m <;> rfl

/-- Blocks add all their functions and all their contracts. -/
theorem foldl_addTo (blocks : List Implementation) (d : Declaration) :
    blocks.foldl (fun d b => b.addTo d) d =
      (contractPaths blocks).foldl addContract (((ownFunctions blocks).map (·.method d.type)).foldl addMethod d) := by
  induction blocks generalizing d with
  | nil => rfl
  | cons b rest ih =>
    have htype : (b.addTo d).type = d.type := congrArg Prod.fst (b.head_addTo d)
    rw [List.foldl_cons, ih, htype]
    unfold Syntax.Implementation.addTo
    cases hcontract : b.contract with
    | none => simp [contractPaths, ownFunctions, Implementation.contractPath?, hcontract, foldl_members]
    | some c =>
      cases hnegative : c.negative with
      | true => simp [contractPaths, ownFunctions, Implementation.contractPath?, hcontract, hnegative]
      | false =>
        simp [contractPaths, ownFunctions, Implementation.contractPath?, hcontract, hnegative,
          foldl_addMethod_addContract]

theorem methods_foldl_addMethod (methods : List Method) (d : Declaration) :
    (methods.foldl addMethod d).methods = d.methods ++ methods := by
  induction methods generalizing d with
  | nil => simp
  | cons m rest ih => simp [ih, addMethod]

/-- A declaration that has no constructor gets the first function that constructs its values. -/
theorem constructor_foldl_addMethod (methods : List Method) (d : Declaration) :
    (methods.foldl addMethod d).constructor =
      d.constructor.or ((methods.find? (·.constructs d.type)).map fun m => ⟨m.name, m.parameters⟩) := by
  induction methods generalizing d with
  | nil => simp
  | cons m rest ih =>
    have htype : (d.addMethod m).type = d.type := rfl
    rw [List.foldl_cons, ih, htype]
    cases hd : d.constructor with
    | some c => simp [addMethod, hd]
    | none =>
      by_cases hm : m.constructs d.type = true
      · simp [addMethod, hd, hm]
      · simp [addMethod, hd, hm]

theorem contracts_foldl_addMethod (methods : List Method) (d : Declaration) :
    (methods.foldl addMethod d).contracts = d.contracts ∧ (methods.foldl addMethod d).disposable = d.disposable := by
  induction methods generalizing d with
  | nil => exact ⟨rfl, rfl⟩
  | cons m rest ih => exact ih (d.addMethod m)

theorem methods_foldl_addContract (contracts : List TypeExpr) (d : Declaration) :
    (contracts.foldl addContract d).methods = d.methods ∧
      (contracts.foldl addContract d).constructor = d.constructor := by
  induction contracts generalizing d with
  | nil => exact ⟨rfl, rfl⟩
  | cons t rest ih =>
    have hfirst : (d.addContract t).methods = d.methods ∧ (d.addContract t).constructor = d.constructor := by
      unfold addContract
      split
      · exact ⟨rfl, rfl⟩
      · split <;> exact ⟨rfl, rfl⟩
    rw [List.foldl_cons, (ih _).1, (ih _).2]
    exact hfirst

/-- A contract is added where none that displays alike is there. -/
theorem contracts_foldl_addContract (contracts : List TypeExpr) (d : Declaration) :
    (contracts.foldl addContract d).contracts =
      d.contracts ++ (distinct (contracts.filter (·.simpleName? ≠ some "Disposable"))).filter
        fun t => ∀ c ∈ d.contracts, c.display ≠ t.display := by
  induction contracts generalizing d with
  | nil => simp [distinct]
  | cons t rest ih =>
    rw [List.foldl_cons, ih]
    by_cases hdisposable : t.simpleName? = some "Disposable"
    · simp [addContract, isDisposableContract, hdisposable]
    · have hfilter : (t :: rest).filter (·.simpleName? ≠ some "Disposable") =
          t :: rest.filter (·.simpleName? ≠ some "Disposable") := by simp [hdisposable]
      rw [hfilter]
      by_cases hknown : d.contracts.any (· == t) = true
      · have hadd : d.addContract t = d := by simp [addContract, isDisposableContract, hdisposable, hknown]
        rw [hadd, distinct_cons_of_known (by simpa [TypeExpr.beq_iff] using hknown)]
      · have hadd : (d.addContract t).contracts = d.contracts ++ [t] := by
          simp [addContract, isDisposableContract, hdisposable, hknown]
        rw [hadd, distinct_cons_of_new (by simpa [TypeExpr.beq_iff] using hknown), List.append_assoc,
          List.singleton_append]

theorem disposable_foldl_addContract (contracts : List TypeExpr) (d : Declaration) :
    (contracts.foldl addContract d).disposable = true ↔
      d.disposable = true ∨ ∃ t ∈ contracts, t.simpleName? = some "Disposable" := by
  induction contracts generalizing d with
  | nil => simp
  | cons t rest ih =>
    rw [List.foldl_cons, ih]
    by_cases hdisposable : t.simpleName? = some "Disposable"
    · simp [addContract, isDisposableContract, hdisposable]
    · by_cases hknown : d.contracts.any (· == t) = true
      · simp [addContract, isDisposableContract, hdisposable, hknown]
      · simp [addContract, isDisposableContract, hdisposable, hknown]

end Declaration

section

variable {owner : TypeExpr} {f : Function}

theorem Syntax.Function.constructs_iff : (f.method owner).constructs owner = true ↔ f.Constructs owner := by
  have hstatic : (f.method owner).isStatic = true ↔ f.signature.receiver = false := by simp [Syntax.Function.method]
  have hfactory : (!(f.method owner).isFactory) = true ↔ ∀ a ∈ f.attributes, a.name? ≠ some "factory" := by
    simp [Syntax.Function.method]
  have hreturns : (f.method owner).returns.any (· == owner) = true ↔
      ∃ t ∈ f.signature.returns, (TypeExpr.replaceSelf ⟨t⟩ owner).display = owner.display := by
    simp [Syntax.Function.method, TypeExpr.beq_iff, Option.any_eq_true]
  rw [Method.constructs, Bool.and_eq_true, Bool.and_eq_true, hstatic, hfactory, hreturns]
  exact ⟨fun h => ⟨h.1.1, h.1.2, h.2⟩, fun h => ⟨⟨h.static, h.unmarked⟩, h.returns⟩⟩

theorem firstConstructor_find? (functions : List Function) (owner : TypeExpr) :
    FirstConstructor owner functions
      (((functions.map (·.method owner)).find? (·.constructs owner)).map fun m => ⟨m.name, m.parameters⟩) := by
  rw [List.find?_map, Option.map_map]
  cases hfind : functions.find? ((·.constructs owner) ∘ (·.method owner)) with
  | none =>
    apply FirstConstructor.none
    intro f hf hconstructs
    exact List.find?_eq_none.mp hfind f hf (Syntax.Function.constructs_iff.mpr hconstructs)
  | some f =>
    obtain ⟨hf, before, after, rfl, hbefore⟩ := List.find?_eq_some_iff_append.mp hfind
    refine .some (fun g hg hconstructs => ?_) (Syntax.Function.constructs_iff.mp hf)
    simpa [Syntax.Function.constructs_iff.mpr hconstructs] using hbefore g hg

/-- A declaration that had no functions and no contracts before has those of its blocks. -/
theorem Declaration.collectedFrom_foldl {d : Declaration} (hmethods : d.methods = [])
    (hconstructor : d.constructor = none) (hcontracts : d.contracts = []) (hdisposable : d.disposable = false) (blocks : List Implementation) :
    (blocks.foldl (fun d b => b.addTo d) d).CollectedFrom blocks := by
  have htype : (blocks.foldl (fun d b => b.addTo d) d).type = d.type :=
    congrArg Prod.fst (Syntax.Implementation.head_foldl_addTo blocks d)
  constructor
  · rw [htype, foldl_addTo, (methods_foldl_addContract _ _).1, methods_foldl_addMethod, hmethods, List.nil_append]
  · rw [htype, foldl_addTo, (methods_foldl_addContract _ _).2, constructor_foldl_addMethod, hconstructor,
      Option.none_or]
    exact firstConstructor_find? _ _
  · rw [foldl_addTo, contracts_foldl_addContract, (contracts_foldl_addMethod _ _).1, hcontracts]
    simp
  · rw [foldl_addTo, disposable_foldl_addContract, (contracts_foldl_addMethod _ _).2, hdisposable]
    simp

end

/-! ### Declarations of items -/

section

variable {items : List Item} {ds : List Declaration}

/-- The declarations of items before their blocks are those that the definitions are. -/
theorem declarationsOf_eq (items : List Item) :
    declarationsOf items = (definitionsOf items).mapM Definition.declaration >>= fun ds =>
      .ok (items.foldl (fun ds i => i.addTo ds) ds) := by
  have hdeclared : (items.mapM Syntax.Item.declaration? >>= fun declared => .ok (declared.filterMap id)) =
      (definitionsOf items).mapM Definition.declaration := by
    induction items with
    | nil => rfl
    | cons item rest ih =>
      rw [List.mapM_cons]
      cases item with
      | definition d =>
        have hdefinitions : definitionsOf (.definition d :: rest) = d :: definitionsOf rest := rfl
        rw [hdefinitions, List.mapM_cons, ← ih, Syntax.Item.declaration?]
        cases d.declaration with
        | error e => rfl
        | ok declaration => cases rest.mapM Syntax.Item.declaration? <;> rfl
      | implementation b =>
        rw [show definitionsOf (.implementation b :: rest) = definitionsOf rest from rfl, ← ih]
        cases rest.mapM Syntax.Item.declaration? <;> rfl
      | other trees =>
        rw [show definitionsOf (.other trees :: rest) = definitionsOf rest from rfl, ← ih]
        cases rest.mapM Syntax.Item.declaration? <;> rfl
  rw [← hdeclared, bind_assoc]
  rfl

/-- A definition is a declaration of its name and kind, which has nothing of what blocks add. -/
theorem Syntax.Definition.declaration_eq_ok {definition : Definition} {d : Declaration}
    (h : definition.declaration = .ok d) :
    d.head = (.ofName definition.name, definition.kind) ∧ d.methods = [] ∧ d.constructor = none ∧ d.contracts = [] ∧
      d.disposable = false := by
  obtain ⟨markers, base, withheld, rfl⟩ := foldlM_addTo_frame h
  exact ⟨rfl, rfl, rfl, rfl, rfl⟩

/-- The declarations of items are those of the definitions, with what the blocks add to them. -/
theorem declarationsOf_eq_ok : declarationsOf items = .ok ds ↔
    ∃ declared, (definitionsOf items).mapM Definition.declaration = .ok declared ∧
      items.foldl (fun ds i => i.addTo ds) declared = ds := by
  rw [declarationsOf_eq, bind_eq_ok]
  simp only [Except.ok.injEq]

theorem exists_definition_of_mem {declared : List Declaration}
    (h : (definitionsOf items).mapM Definition.declaration = .ok declared) {d : Declaration} (hd : d ∈ declared) :
    ∃ definition ∈ definitionsOf items, definition.declaration = .ok d :=
  exists_rel_of_mem_right (mapM_eq_ok.mp h) hd

/-- There is a declaration for each definition, in the order of the definitions. -/
theorem heads_of_declarationsOf (h : declarationsOf items = .ok ds) :
    ds.map Declaration.head = (definitionsOf items).map fun d => (.ofName d.name, d.kind) := by
  obtain ⟨declared, hdeclared, rfl⟩ := declarationsOf_eq_ok.mp h
  rw [heads_foldl_addTo, eq_comm, ← List.forall₂_eq_eq_eq, List.forall₂_map_left_iff, List.forall₂_map_right_iff]
  exact (mapM_eq_ok.mp hdeclared).imp fun _ _ hd => (Syntax.Definition.declaration_eq_ok hd).1.symm

/-- The first struct or enum of a name has what the blocks for the name give. -/
theorem collectedFrom_of_isFirst (h : declarationsOf items = .ok ds) {i : Nat} {d : Declaration} (hd : ds[i]? = some d)
    (hfirst : d.IsFirst ds i) : d.CollectedFrom (blocksFor d.definitionName items) := by
  obtain ⟨declared, hdeclared, rfl⟩ := declarationsOf_eq_ok.mp h
  rw [getElem?_foldl_addTo] at hd
  obtain ⟨start, hstart, rfl⟩ := Option.map_eq_some_iff.mp hd
  obtain ⟨definition, -, hdeclaration⟩ := exists_definition_of_mem hdeclared (List.mem_of_getElem? hstart)
  obtain ⟨-, hmethods, hconstructor, hcontracts, hdisposable⟩ := Definition.declaration_eq_ok hdeclaration
  -- Blocks change no heads, so the declaration was the first of its name before them.
  have hhead := head_ite_foldl_addTo (start.IsFirst declared i) (blocksFor start.definitionName items) start
  have hfirst' : start.IsFirst declared i :=
    (Declaration.isFirst_congr (heads_foldl_addTo items declared) hhead i).mp hfirst
  rw [Declaration.definitionName_of_head hhead, if_pos hfirst']
  exact Declaration.collectedFrom_foldl hmethods hconstructor hcontracts hdisposable _

/-- Blocks add the same to declarations wherever they stand. -/
theorem declarationsOf_congr {items' : List Item} (h : declarationsOf items = .ok ds)
    (hdefinitions : definitionsOf items' = definitionsOf items)
    (hblocks : ∀ d ∈ definitionsOf items, d.kind ≠ .trait → blocksFor d.name items' = blocksFor d.name items) :
    declarationsOf items' = .ok ds := by
  obtain ⟨declared, hdeclared, rfl⟩ := declarationsOf_eq_ok.mp h
  refine declarationsOf_eq_ok.mpr ⟨declared, hdefinitions ▸ hdeclared, List.ext_getElem? fun i => ?_⟩
  rw [getElem?_foldl_addTo, getElem?_foldl_addTo]
  cases hstart : declared[i]? with
  | none => rfl
  | some start =>
    obtain ⟨definition, hmem, hdeclaration⟩ := exists_definition_of_mem hdeclared (List.mem_of_getElem? hstart)
    have hhead := (Definition.declaration_eq_ok hdeclaration).1
    rw [Option.map_some, Option.map_some]
    by_cases hfirst : start.IsFirst declared i
    · have hkind : definition.kind ≠ .trait := by
        rw [← show start.kind = definition.kind from congrArg Prod.snd hhead]
        exact hfirst.1
      have hname : start.definitionName = definition.name := by
        rw [Declaration.definitionName, show start.type = .ofName definition.name from congrArg Prod.fst hhead]
        rfl
      rw [if_pos hfirst, if_pos hfirst, hname, hblocks definition hmem hkind]
    · rw [if_neg hfirst, if_neg hfirst]

/-- Each declaration that is the first struct or enum of its name has what the blocks for its name give, in their order.
The declarations are the same for all items with the same definitions in the same order and the same blocks for each
type in the same order, wherever the blocks stand. -/
theorem declarationsOf_blocks (h : declarationsOf items = .ok ds) :
    (∀ (i : Nat) (d : Declaration), ds[i]? = some d → d.IsFirst ds i →
      d.CollectedFrom (blocksFor d.definitionName items)) ∧
    ∀ items', definitionsOf items' = definitionsOf items →
      (∀ d ∈ definitionsOf items, d.kind ≠ .trait → blocksFor d.name items' = blocksFor d.name items) →
      declarationsOf items' = .ok ds := by
  constructor
  · intro i d hd hfirst
    exact collectedFrom_of_isFirst h hd hfirst
  · intro items' hdefinitions hblocks
    exact declarationsOf_congr h hdefinitions hblocks

end

/-! ### Blocks before their type -/

namespace Sample

/-- The clock and the session, with the blocks of the session before both. -/
def blocksFirst : List Item :=
  [implemented "Session" none
     [function "new" [("clock", "Clock")] "Self", function "again" [("session", "Session")] "Session"],
   implemented "Session" (some "Disposable") [], defined "Clock" "singleton", defined "Session" "scoped"]

end Sample

theorem declarationsOf_blocks_session :
    declarationsOf Sample.written = .ok [Sample.clockDeclaration, Sample.sessionDeclaration] ∧
    Sample.sessionDeclaration.IsFirst [Sample.clockDeclaration, Sample.sessionDeclaration] 1 ∧
    Sample.sessionDeclaration.CollectedFrom (blocksFor "Session" Sample.written) ∧
    definitionsOf Sample.blocksFirst = definitionsOf Sample.written ∧
    declarationsOf Sample.blocksFirst = .ok [Sample.clockDeclaration, Sample.sessionDeclaration] := by
  have hwritten := Sample.declarationsOf_written
  have hfirst : Sample.sessionDeclaration.IsFirst [Sample.clockDeclaration, Sample.sessionDeclaration] 1 := by
    decide +kernel
  have hblocks : ∀ d ∈ definitionsOf Sample.written, d.kind ≠ .trait →
      blocksFor d.name Sample.blocksFirst = blocksFor d.name Sample.written :=
    List.forall_mem_cons.mpr ⟨fun _ => rfl, List.forall_mem_singleton.mpr fun _ => rfl⟩
  exact ⟨hwritten, hfirst, (declarationsOf_blocks hwritten).1 1 _ rfl hfirst, rfl,
    (declarationsOf_blocks hwritten).2 Sample.blocksFirst rfl hblocks⟩

end ServiceContainer
