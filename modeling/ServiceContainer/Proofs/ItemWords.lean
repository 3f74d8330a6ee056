import ServiceContainer.Proofs.TypeWords

/-!
# The words of items

The parsers of patterns, expressions, statements and items hand on words if the parts of the grammar do. The grammar
without any words reads nothing, and so every level of nesting hands on words.

## Main statements

* `Grammar.keeps_patternOf`, `Grammar.keeps_exprOf`, `Grammar.keeps_statementsOf`, `Grammar.keeps_itemOf` — the parts
  of the grammar, one level after the other
* `lexical_of_readTrees?` — what is read of lexical trees is lexical
-/

namespace ServiceContainer.Syntax

open ServiceContainer.Syntax.Parser
open Lexical (From)

set_option synthInstance.maxSize 40000

/-! ### Values -/

section

variable {known : Prop}

section patterns

variable {shape : PatternShape} {plain trees attributes : List Tree} {p : Pattern}

theorem lexical_pattern : Lexical p ↔ Lexical p.shape ∧ Lexical p.trees := List.forall_mem_append

instance {isOpen : Bool} : From known (PatternShape.range isOpen) := ⟨fun _ => lexical_of_words_eq_nil rfl⟩

instance : From known PatternShape.verbatim := ⟨fun _ => lexical_of_words_eq_nil rfl⟩

instance : From known PatternShape.other := ⟨fun _ => lexical_of_words_eq_nil rfl⟩

instance [h : From known plain] : From known (PatternShape.constant plain) := ⟨h.lexical⟩

instance [hshape : From known shape] [htrees : From known trees] : From known (Pattern.mk shape trees) :=
  ⟨fun hknown => lexical_pattern.mpr ⟨hshape.lexical hknown, htrees.lexical hknown⟩⟩

instance [h : From known p] : From known p.trees := ⟨fun hknown => (lexical_pattern.mp (h.lexical hknown)).2⟩

instance [hattributes : From known attributes] [h : From known p] : From known (p.withAttributes attributes) := by
  unfold Pattern.withAttributes
  split
  next => infer_instance
  next plain hshape =>
    have : From known plain := ⟨fun hknown => by
      have hconstant := (lexical_pattern.mp (h.lexical hknown)).1
      rwa [hshape] at hconstant⟩
    infer_instance
  next => infer_instance
  next => infer_instance

end patterns

section items

variable {attributes : List Attribute} {lead body trees : List Tree} {parameters : List Parameter}
  {returns : Option Tree} {target type : Tree} {signature : Signature} {name : String} {kind : TypeKind} {contract : Option Contract}
  {members : List Member} {items : Option (List Item)} {traitBody : Option (List Tree)} {generic unit negative : Bool}
  {f : Function} {m : Member} {i : Implementation} {d : Definition} {x : Item} {block : ModuleItem}

theorem lexical_signature : Lexical signature ↔
    Lexical signature.parameters ∧ Lexical signature.returns ∧ Lexical signature.trees :=
  lexical_mk.trans (and_congr_right' lexical_mk)

theorem lexical_function : Lexical f ↔
    Lexical f.attributes ∧ Lexical f.lead ∧ Lexical f.signature ∧ Lexical f.body :=
  lexical_mk.trans (and_congr_right' (lexical_mk.trans (and_congr_right' lexical_mk)))

theorem lexical_implementation : Lexical i ↔
    Lexical i.attributes ∧ Lexical i.lead ∧ Lexical i.contract ∧ Lexical i.target ∧ Lexical i.members :=
  lexical_mk.trans (and_congr_right' (lexical_mk.trans (and_congr_right' (lexical_mk.trans
    (and_congr_right' lexical_mk)))))

theorem lexical_definition : Lexical d ↔
    Lexical d.attributes ∧ Lexical d.name ∧ Lexical d.lead ∧ Lexical d.body :=
  lexical_mk.trans (and_congr_right' (lexical_mk.trans (and_congr_right' lexical_mk)))

theorem lexical_module : Lexical block ↔ Lexical block.attributes ∧ Lexical block.lead ∧ Lexical block.items :=
  lexical_mk.trans (and_congr_right' lexical_mk)

instance {name : Option String} [h : From known type] : From known (Parameter.mk name type) := ⟨h.lexical⟩

instance {receiver : Bool} [h : From known (parameters, returns, trees)] :
    From known (Signature.mk name receiver parameters returns trees) := ⟨h.lexical⟩

instance [h : From known (attributes, lead, signature, body)] :
    From known (Function.mk attributes lead signature body) := ⟨h.lexical⟩

instance [h : From known f] : From known (Member.function f) := ⟨h.lexical⟩

instance [h : From known trees] : From known (Member.other trees) := ⟨h.lexical⟩

instance [h : From known type] : From known (Contract.mk negative type) := ⟨h.lexical⟩

instance [h : From known (attributes, lead, contract, target, members)] :
    From known (Implementation.mk attributes lead contract target members) := ⟨h.lexical⟩

instance [h : From known (attributes, name, lead, traitBody)] :
    From known (Definition.mk attributes kind name generic unit lead traitBody) := ⟨h.lexical⟩

instance [h : From known d] : From known (Item.definition d) := ⟨h.lexical⟩

instance [h : From known i] : From known (Item.implementation i) := ⟨h.lexical⟩

instance [h : From known trees] : From known (Item.other trees) := ⟨h.lexical⟩

instance [h : From known (attributes, lead, items)] : From known (ModuleItem.mk attributes lead items) := ⟨h.lexical⟩

instance [h : From known signature] : From known signature.trees :=
  ⟨fun hknown => (lexical_signature.mp (h.lexical hknown)).2.2⟩

theorem Lexical.function_trees (h : Lexical f) : Lexical f.trees := by
  obtain ⟨hattributes, hlead, hsignature, hbody⟩ := lexical_function.mp h
  unfold Function.trees
  exact From.lexical (And.intro (And.intro (And.intro hattributes hlead) hsignature) hbody)

instance [h : From known f] : From known f.trees := ⟨fun hknown => (h.lexical hknown).function_trees⟩

theorem Lexical.member_trees (h : Lexical m) : Lexical m.trees := by
  cases m with
  | function f => exact Lexical.function_trees h
  | other trees => exact h

instance [h : From known m] : From known m.trees := ⟨fun hknown => (h.lexical hknown).member_trees⟩

theorem Lexical.implementation_trees (h : Lexical i) : Lexical i.trees := by
  obtain ⟨hattributes, hlead, -, -, hmembers⟩ := lexical_implementation.mp h
  unfold Implementation.trees
  exact From.lexical (And.intro (And.intro hattributes hlead) hmembers)

theorem Lexical.definition_trees (h : Lexical d) : Lexical d.trees := by
  obtain ⟨hattributes, -, hlead, hbody⟩ := lexical_definition.mp h
  unfold Definition.trees
  split
  next body hsome =>
    have hinside : Lexical body := by rwa [hsome] at hbody
    exact From.lexical (And.intro (And.intro hattributes hlead) hinside)
  next => exact From.lexical (And.intro hattributes hlead)

theorem Lexical.item_trees (h : Lexical x) : Lexical x.trees := by
  cases x with
  | definition d => exact Lexical.definition_trees h
  | implementation i => exact Lexical.implementation_trees h
  | other trees => exact h

instance [h : From known x] : From known x.trees := ⟨fun hknown => (h.lexical hknown).item_trees⟩

theorem Lexical.module_trees (h : Lexical block) : Lexical block.trees := by
  obtain ⟨hattributes, hlead, hitems⟩ := lexical_module.mp h
  unfold ModuleItem.trees
  split
  next items hsome =>
    have hinside : Lexical items := by rwa [hsome] at hitems
    exact From.lexical (And.intro (And.intro hattributes hlead) hinside)
  next => exact From.lexical (And.intro hattributes hlead)

instance [h : From known block] : From known block.trees := ⟨fun hknown => (h.lexical hknown).module_trees⟩

end items

instance : HasWords ParameterList := ⟨fun x => words (x.parameters, x.trees)⟩

instance : HasWords Grammar.Alias := ⟨fun a => words a.trees⟩

theorem lexical_parameters {x : ParameterList} : Lexical x ↔ Lexical x.parameters ∧ Lexical x.trees := lexical_mk

instance {receiver : Bool} {parameters : List Parameter} {trees : List Tree} [h : From known (parameters, trees)] :
    From known (ParameterList.mk receiver parameters trees) := ⟨h.lexical⟩

instance {x : ParameterList} [h : From known x] : From known x.parameters :=
  ⟨fun hknown => (lexical_parameters.mp (h.lexical hknown)).1⟩

instance {x : ParameterList} [h : From known x] : From known x.trees :=
  ⟨fun hknown => (lexical_parameters.mp (h.lexical hknown)).2⟩

instance {bounded defined : Bool} {trees : List Tree} [h : From known trees] :
    From known (Grammar.Alias.mk bounded defined trees) := ⟨h.lexical⟩

instance {a : Grammar.Alias} [h : From known a] : From known a.trees := ⟨h.lexical⟩

instance {a : Grammar.Alias} [From known a] : From known a.definition? := by
  unfold Grammar.Alias.definition?
  infer_instance

instance {a : Grammar.Alias} [From known a] : From known a.declaration? := by
  unfold Grammar.Alias.declaration?
  infer_instance

end

namespace Grammar

variable {known : Prop} {g : Grammar} {fuel : Nat} {structs first rooted named relaxed early late valueless : Bool}
  {base : Precedence} {left : Expr} {trees : List Tree} {attributes : List Attribute} {stop : List Tree → Bool}

/-! ### Patterns -/

section

variable [PartsKeep g]

theorem lexical_fieldNumber? {text : String} {t : Tree} (h : fieldNumber? text = some t) : Lexical t := by
  obtain ⟨n, -, hn⟩ := Option.bind_eq_some_iff.mp h
  rw [Option.ite_none_right_eq_some, Option.some.injEq] at hn
  exact hn.2 ▸ lexical_token nofun

instance {text : String} : From known (fieldNumber? text) := by
  cases hnumber : fieldNumber? text with
  | none => infer_instance
  | some t => exact ⟨fun _ => lexical_fieldNumber? hnumber⟩

instance : Keeps known fieldNumber := by
  unfold fieldNumber
  refine .of_get fun hknown trees htrees => ?_
  split
  next text rest =>
    exact Keeps.keeps (And.intro hknown (lexical_cons.mp htrees).2) _ htrees
  next => exact Keeps.keeps hknown trees htrees

instance : Keeps known fieldName := by unfold fieldName; infer_instance

instance : Keeps known g.choice := by
  have halternatives (known : Prop) (fuel : Nat) : Keeps known (g.alternatives fuel) := by
    induction fuel generalizing known with
    | zero => unfold alternatives; infer_instance
    | succ fuel ih => unfold alternatives; infer_instance
  unfold choice
  infer_instance

instance : Keeps known g.patterns := by unfold patterns; infer_instance

instance : Keeps known g.element := by
  unfold element
  refine .bind inferInstance fun x => ?_
  split <;> infer_instance

instance : Keeps known g.rangeEnd := by unfold rangeEnd; infer_instance

instance {first : List Tree} [From known first] : Keeps known (g.rangeAfter first) := by
  unfold rangeAfter
  infer_instance

instance : Keeps known g.fieldPattern := by unfold fieldPattern; infer_instance

instance : Keeps known (g.fieldPatterns fuel) := by
  induction fuel generalizing known with
  | zero => unfold fieldPatterns; infer_instance
  | succ fuel ih => unfold fieldPatterns; infer_instance

instance : Keeps known g.pathPattern := by unfold pathPattern; infer_instance

instance : Keeps known g.constantPattern := by unfold constantPattern; infer_instance

instance : Keeps known g.literalPattern := by unfold literalPattern; infer_instance

instance : Keeps known g.namePattern := by unfold namePattern; infer_instance

instance : Keeps known g.restPattern := by unfold restPattern; infer_instance

theorem keeps_patternOf : Keeps known g.patternOf := by unfold patternOf; infer_instance

/-! ### Expressions -/

instance {trees : List Tree} [From known trees] : From known (plainExpr trees) := by unfold plainExpr; infer_instance

instance {trees : List Tree} [From known trees] : From known (blockExpr trees) := by unfold blockExpr; infer_instance

instance : Keeps known g.headTrees := by unfold headTrees; infer_instance

instance : Keeps known g.exprList := by unfold exprList; infer_instance

instance : Keeps known (g.branches fuel) := by
  induction fuel generalizing known with
  | zero => unfold branches; infer_instance
  | succ fuel ih => unfold branches; infer_instance

instance {body : Expr} : Keeps known (armEnd body) := by unfold armEnd; infer_instance

instance : Keeps known g.loopOrBlock := by unfold loopOrBlock; infer_instance

instance : Keeps known g.labelled := by unfold labelled; infer_instance

instance : Keeps known g.arms := by unfold arms; infer_instance

theorem keeps_blockExpr? {p : Parser (List Tree)} (h : g.blockExpr? trees = some p) : Keeps known p := by
  unfold blockExpr? at h
  split_ifs at h
  all_goals
    obtain rfl := Option.some.inj h
    infer_instance

instance : Keeps known g.closureParameter := by unfold closureParameter; infer_instance

instance : Keeps known (g.closure structs) := by unfold closure; infer_instance

instance : Keeps known (g.fieldValues fuel) := by
  induction fuel generalizing known with
  | zero => unfold fieldValues; infer_instance
  | succ fuel ih => unfold fieldValues; infer_instance

instance : Keeps known (g.pathExpr structs) := by unfold pathExpr; infer_instance

instance : Keeps known g.elements := by unfold elements; infer_instance

instance {operand : Expr} [From known operand] : Keeps known (g.tighter structs base operand fuel) := by
  induction fuel generalizing known operand with
  | zero => unfold tighter; infer_instance
  | succ fuel ih => unfold tighter; infer_instance

instance : Keeps known (g.rightOperand structs base) := by unfold rightOperand; infer_instance

instance : Keeps known (g.rangeTail structs) := by unfold rangeTail; infer_instance

instance : Keeps known (g.letExpr structs) := by unfold letExpr; infer_instance

instance : Keeps known (g.breakExpr structs) := by unfold breakExpr; infer_instance

instance : Keeps known g.leaving := by unfold leaving; infer_instance

instance : Keeps known (g.operand structs) := by
  unfold operand
  -- The trees decide which parser follows, so it is not found by its shape.
  refine .of_get fun hknown trees htrees => ?_
  cases hblock : g.blockExpr? trees with
  | none => exact Keeps.keeps hknown trees htrees
  | some p =>
    have hp {known : Prop} : Keeps known p := keeps_blockExpr? hblock
    exact Keeps.keeps hknown trees htrees

instance : Keeps known g.oneMember := by unfold oneMember; infer_instance

instance {parts : List String} : From known (parts.mapM fieldNumber?) := by
  induction parts with
  | nil => exact inferInstanceAs (From known (some []))
  | cons part parts ih =>
    rw [List.mapM_cons]
    infer_instance

instance {parts : List String} : From known (fieldNumbers? parts) := by
  unfold fieldNumbers?
  infer_instance

instance : Keeps known g.member := by
  unfold member
  refine .of_get fun hknown trees htrees => ?_
  split
  next text rest =>
    exact Keeps.keeps (And.intro hknown (lexical_cons.mp htrees).2) _ htrees
  next => exact Keeps.keeps hknown trees htrees

instance {operand : Expr} [From known operand] : Keeps known (g.postfixUpTo operand fuel) := by
  induction fuel generalizing known operand with
  | zero => unfold postfixUpTo; infer_instance
  | succ fuel ih => unfold postfixUpTo; infer_instance

instance {operand : Expr} [From known operand] : Keeps known (g.postfixOf operand) := by
  unfold postfixOf
  infer_instance

theorem keeps_unaryOf : Keeps known (g.unaryOf structs) := by unfold unaryOf; infer_instance

instance [From known left] : Keeps known (g.binaryUpTo structs base left fuel) := by
  induction fuel generalizing known left with
  | zero => unfold binaryUpTo; infer_instance
  | succ fuel ih =>
    unfold binaryUpTo
    refine .of_get fun hknown trees htrees => ?_
    cases binaryOperator? trees with
    | none => exact Keeps.keeps hknown trees htrees
    | some found => exact Keeps.keeps hknown trees htrees

theorem keeps_binaryOf [From known left] : Keeps known (g.binaryOf structs left base) := by
  unfold binaryOf
  infer_instance

theorem keeps_exprOf : Keeps known (g.exprOf structs) := by unfold exprOf; infer_instance

theorem keeps_statementExprOf : Keeps known g.statementExprOf := by
  unfold statementExprOf
  refine .bind inferInstance fun lead => .of_get fun hknown trees htrees => ?_
  cases hblock : g.blockExpr? trees with
  | none => exact Keeps.keeps hknown trees htrees
  | some p =>
    have hp {known : Prop} : Keeps known p := keeps_blockExpr? hblock
    exact Keeps.keeps hknown trees htrees

/-! ### Statements -/

instance : Keeps known g.localBinding := by unfold localBinding; infer_instance

instance : Keeps known g.statement := by
  unfold statement
  infer_instance

theorem keeps_statementsOf : Keeps known g.statementsOf := by
  have hstatements (known : Prop) (fuel : Nat) : Keeps known (g.statementsUpTo fuel) := by
    induction fuel generalizing known with
    | zero => unfold statementsUpTo; infer_instance
    | succ fuel ih => unfold statementsUpTo; infer_instance
  unfold statementsOf
  infer_instance

/-! ### Functions -/

instance : Keeps known (callItem named) := by unfold callItem; infer_instance

instance : Keeps known receiver := by unfold receiver; infer_instance

theorem lexical_underscore : Lexical "_" := List.forall_mem_singleton.mpr (by decide)

instance : From known "_" := ⟨fun _ => lexical_underscore⟩

instance : Keeps known g.typedParameter := by unfold typedParameter; infer_instance

instance : Keeps known (g.parametersUpTo first fuel) := by
  induction fuel generalizing first known with
  | zero => unfold parametersUpTo; infer_instance
  | succ fuel ih =>
    unfold parametersUpTo
    refine .bind inferInstance fun isEnd => .ite inferInstance ?_
    refine .bind inferInstance fun lead => .of_get fun hknown trees htrees => ?_
    dsimp only
    split
    next => exact Keeps.keeps hknown trees htrees
    next =>
      split
      next isReference x rest hreceiver =>
        -- The receiver was read on the side, and the trees after it are set.
        have hread : Keeps True receiver := inferInstance
        obtain ⟨hx, hrest⟩ := hread.keeps trivial trees htrees _ _ hreceiver
        exact Keeps.keeps (And.intro (And.intro hknown (lexical_mk.mp hx).2) hrest) _ htrees
      next => exact Keeps.keeps hknown trees htrees

instance : Keeps known g.signature := by unfold signature; infer_instance

instance : Keeps known g.functionBody := by unfold functionBody; infer_instance

instance {lead : List Tree} [From known attributes] [From known lead] : Keeps known (g.functionOf attributes lead) := by
  unfold functionOf
  infer_instance

/-! ### Items -/

instance {start : List Tree} {o : Option (List Tree)} [From known start] [From known o] :
    Keeps known (orSince start o) := by
  cases o with
  | none => exact inferInstanceAs (Keeps known (readSince start))
  | some trees =>
    have : From known trees := ⟨Lexical.From.lexical (x := some trees)⟩
    exact inferInstanceAs (Keeps known (pure trees))

instance : Keeps known (g.constantItem valueless) := by unfold constantItem; infer_instance

instance : Keeps known (g.aliasItem early late) := by
  unfold aliasItem
  -- Past the generic parameters the search has few enough branches.
  refine .bind inferInstance fun lead => .bind inferInstance fun generics => .bind inferInstance fun trees => ?_
  infer_instance

instance : Keeps known g.namedField := by unfold namedField; infer_instance

instance : Keeps known g.tupleField := by unfold tupleField; infer_instance

instance : Keeps known g.namedFields := by unfold namedFields; infer_instance

instance : Keeps known g.tupleFields := by unfold tupleFields; infer_instance

instance : Keeps known g.variant := by unfold variant; infer_instance

instance [From known attributes] : Keeps known (g.structItem attributes) := by unfold structItem; infer_instance

instance [From known attributes] : Keeps known (g.enumItem attributes) := by unfold enumItem; infer_instance

instance : Keeps known g.traitFunction := by unfold traitFunction; infer_instance

instance : Keeps known g.traitMember := by unfold traitMember; infer_instance

instance : Keeps known (g.traitBounds relaxed stop) := by unfold traitBounds; infer_instance

instance [From known attributes] : Keeps known (g.traitItem attributes) := by unfold traitItem; infer_instance

instance : Keeps known g.implementationMember := by unfold implementationMember; infer_instance

instance : Keeps known g.implementationGenerics := by unfold implementationGenerics; infer_instance

instance : Keeps known g.implementationBody := by unfold implementationBody; infer_instance

instance {start : List Tree} [From known start] [From known attributes] :
    Keeps known (g.implementationItem start attributes) := by
  unfold implementationItem
  -- Each choice is followed once: the branches between them would multiply.
  refine .bind inferInstance fun view => .bind inferInstance fun lead => .bind inferInstance fun trees => ?_
  dsimp only
  refine .choose inferInstance inferInstance fun constant => .bind inferInstance fun trees => ?_
  refine .choose inferInstance inferInstance fun polarity => .bind inferInstance fun first => ?_
  refine .bind inferInstance fun trees => .ite ?_ inferInstance
  refine .bind inferInstance fun lead => .bind inferInstance fun t => ?_
  exact .bindOption inferInstance (fun x => inferInstance) inferInstance

instance : Keeps known (g.groupedImport rooted) := by unfold groupedImport; infer_instance

instance : Keeps known (g.importGroup rooted) := by unfold importGroup; infer_instance

theorem keeps_importsOf : Keeps known (g.importsOf rooted) := by unfold importsOf; infer_instance

instance : Keeps known g.importItem := by unfold importItem; infer_instance

instance : Keeps known g.staticItem := by unfold staticItem; infer_instance

instance : Keeps known g.foreignFunction := by unfold foreignFunction; infer_instance

instance : Keeps known g.foreignStatic := by unfold foreignStatic; infer_instance

instance : Keeps known g.foreignMember := by unfold foreignMember; infer_instance

instance [From known attributes] : Keeps known (g.foreignItem attributes) := by unfold foreignItem; infer_instance

instance : Keeps known crateItem := by unfold crateItem; infer_instance

instance [From known attributes] : Keeps known (g.moduleAfter attributes) := by unfold moduleAfter; infer_instance

instance : Keeps known definedMacro := by unfold definedMacro; infer_instance

instance : Keeps known g.unionItem := by unfold unionItem; infer_instance

theorem keeps_itemOf : Keeps known g.itemOf := by unfold itemOf; infer_instance

instance : Keeps known (fileItems g) := by unfold fileItems; infer_instance

instance : Keeps known g.moduleItem := by unfold moduleItem; infer_instance

end

/-! ### Levels -/

instance : PartsKeep .empty where
  type _ := inferInstanceAs (Keeps _ failure)
  segment _ := inferInstanceAs (Keeps _ failure)
  binder := inferInstanceAs (Keeps _ failure)
  expr _ := inferInstanceAs (Keeps _ failure)
  unary _ := inferInstanceAs (Keeps _ failure)
  binary _ _ _ := inferInstanceAs (Keeps _ failure)
  statementExpr := inferInstanceAs (Keeps _ failure)
  pattern := inferInstanceAs (Keeps _ failure)
  statements := inferInstanceAs (Keeps _ failure)
  fields := inferInstanceAs (Keeps _ failure)
  imports _ := inferInstanceAs (Keeps _ failure)
  item := inferInstanceAs (Keeps _ failure)

instance [PartsKeep g] : PartsKeep g.step where
  type _ := keeps_typeOf
  segment _ := keeps_segmentOf
  binder := keeps_binderOf
  expr _ := keeps_exprOf
  unary _ := keeps_unaryOf
  binary _ _ _ := keeps_binaryOf
  statementExpr := keeps_statementExprOf
  pattern := keeps_patternOf
  statements := keeps_statementsOf
  fields := inferInstanceAs (Keeps _ g.namedFields)
  imports _ := keeps_importsOf
  item := keeps_itemOf

instance {n : Nat} : PartsKeep (upTo n) := by
  induction n with
  | zero => exact inferInstanceAs (PartsKeep .empty)
  | succ n ih => exact inferInstanceAs (PartsKeep (upTo n).step)

instance : PartsKeep (forTrees trees) := inferInstanceAs (PartsKeep (upTo _))

end Grammar

/-- **What is read of lexical trees is lexical.** -/
theorem lexical_of_readTrees? {α : Type} [HasWords α] {p : Grammar → Parser α} {trees : List Tree} {x : α}
    (hp : ∀ g [Grammar.PartsKeep g], Keeps True (p g)) (htrees : Lexical trees) (h : readTrees? p trees = some x) :
    Lexical x := by
  have := hp (.forTrees trees)
  exact Keeps.of_onAll htrees h

end ServiceContainer.Syntax
