import ServiceContainer.Proofs.TypeLevels

/-!
# Levels of nesting are enough

The parsers of patterns, expressions, statements and items over two grammars, and with them the grammar as a whole: what
is read of some trees at any level of nesting is read at every level that depends on their number.

## Main statements

* `Grammar.upTo_eq_some` — a high level reads of few tokens what any level reads
* `Grammar.readTrees?_eq_some` — trees are read as they are at any level
-/

namespace ServiceContainer.Syntax

open ServiceContainer.Syntax.Parser

set_option synthInstance.maxSize 4000

namespace Grammar

variable {s fuel : Nat} {g h : Grammar} {structs first rooted named relaxed early late valueless : Bool}
  {base : Precedence} {left : Expr} {trees : List Tree} {attributes : List Attribute} {stop : List Tree → Bool}

/-! ### Patterns -/

instance : Refines s fieldNumber fieldNumber := by
  unfold fieldNumber
  refine .of_get fun trees hsize => ?_
  split
  next text rest =>
    cases fieldNumber? text with
    | none => exact fun _ _ hread => nomatch hread
    | some number =>
      have hnumber : RefinesAt (.token (.literal text) :: rest) (do set rest; return [number])
        (do set rest; return [number]) := .set_bind hsize (List.suffix_cons _ _)
      exact hnumber
  next => exact Refines.reads trees hsize

instance : Refines s fieldName fieldName := by unfold fieldName; infer_instance

instance [OperandsRefine s g h] : Refines s g.choice h.choice := by
  have halternatives (fuel : Nat) : Refines s (g.alternatives fuel) (h.alternatives fuel) := by
    induction fuel with
    | zero => exact .failure
    | succ fuel ih => unfold alternatives; infer_instance
  unfold choice
  infer_instance

instance [OperandsRefine s g h] : Refines s g.patterns h.patterns := by unfold patterns; infer_instance

instance [OperandsRefine s g h] : Refines s g.element h.element := by
  unfold element
  refine .bind inferInstance fun x => ?_
  split <;> infer_instance

instance [HeadsRefine s g h] [PartsRefine (s - 4) g h] : Refines s g.rangeEnd h.rangeEnd := by
  unfold rangeEnd
  infer_instance

instance {first : List Tree} [HeadsRefine s g h] [PartsRefine (s - 4) g h] :
    Refines s (g.rangeAfter first) (h.rangeAfter first) := by
  unfold rangeAfter
  infer_instance

instance [PartsRefine s g h] : Refines s g.fieldPattern h.fieldPattern := by unfold fieldPattern; infer_instance

instance [PartsRefine s g h] : Refines s (g.fieldPatterns fuel) (h.fieldPatterns fuel) := by
  induction fuel with
  | zero => exact .failure
  | succ fuel ih => unfold fieldPatterns; infer_instance

instance [HeadsRefine s g h] [PartsRefine (s - 4) g h] : Refines s g.pathPattern h.pathPattern := by
  unfold pathPattern
  infer_instance

instance [HeadsRefine s g h] [PartsRefine (s - 4) g h] : Refines s g.constantPattern h.constantPattern := by
  unfold constantPattern
  infer_instance

instance [HeadsRefine s g h] [PartsRefine (s - 4) g h] : Refines s g.literalPattern h.literalPattern := by
  unfold literalPattern
  infer_instance

instance [PartsRefine (s - 4) g h] : Refines s g.namePattern h.namePattern := by
  unfold namePattern
  infer_instance

instance [HeadsRefine s g h] [PartsRefine (s - 4) g h] : Refines s g.restPattern h.restPattern := by
  unfold restPattern
  infer_instance

theorem refines_patternOf [HeadsRefine s g h] [PartsRefine (s - 4) g h] : Refines s g.patternOf h.patternOf := by
  have : Eats (op "&") := eats_op (by decide)
  unfold patternOf
  infer_instance

/-! ### Expressions -/

instance [ExprsRefine s g h] : Refines s g.headTrees h.headTrees := by unfold headTrees; infer_instance

instance [ExprsRefine s g h] : Refines s g.exprList h.exprList := by unfold exprList; infer_instance

instance [PartsRefine (s - 4) g h] : Refines s (g.branches fuel) (h.branches fuel) := by
  induction fuel with
  | zero => exact .failure
  | succ fuel ih => unfold branches; infer_instance

instance {body : Expr} : Refines s (armEnd body) (armEnd body) := by unfold armEnd; infer_instance

instance [PartsRefine (s - 4) g h] : Refines s g.loopOrBlock h.loopOrBlock := by unfold loopOrBlock; infer_instance

instance [PartsRefine (s - 4) g h] : Refines s g.labelled h.labelled := by unfold labelled; infer_instance

instance [PartsRefine s g h] : Refines s g.arms h.arms := by unfold arms; infer_instance

theorem refines_blockExpr? (s : Nat) (g h : Grammar) (trees : List Tree) [PartsRefine (s - 4) g h] :
    (g.blockExpr? trees = none ∧ h.blockExpr? trees = none) ∨
      ∃ p q, g.blockExpr? trees = some p ∧ h.blockExpr? trees = some q ∧ Refines s p q := by
  unfold blockExpr?
  split_ifs
  all_goals first
    | exact .inl ⟨rfl, rfl⟩
    | exact .inr ⟨_, _, rfl, rfl, inferInstance⟩

instance [PartsRefine s g h] : Refines s g.closureParameter h.closureParameter := by
  unfold closureParameter
  infer_instance

instance [HeadsRefine s g h] [PartsRefine (s - 4) g h] : Refines s (g.closure structs) (h.closure structs) := by
  have : Eats (op "|") := eats_op (by decide)
  unfold closure
  infer_instance

instance [PartsRefine s g h] : Refines s (g.fieldValues fuel) (h.fieldValues fuel) := by
  induction fuel with
  | zero => exact .failure
  | succ fuel ih => unfold fieldValues; infer_instance

instance [HeadsRefine s g h] [PartsRefine (s - 4) g h] : Refines s (g.pathExpr structs) (h.pathExpr structs) := by
  unfold pathExpr
  infer_instance

instance [PartsRefine s g h] : Refines s g.elements h.elements := by unfold elements; infer_instance

instance [OperandsRefine s g h] : Refines s (g.rightOperand structs base) (h.rightOperand structs base) := by
  have htighter (operand : Expr) (fuel : Nat) :
      Refines s (g.tighter structs base operand fuel) (h.tighter structs base operand fuel) := by
    induction fuel generalizing operand with
    | zero => exact .failure
    | succ fuel ih => unfold tighter; infer_instance
  unfold rightOperand
  infer_instance

instance [PartsRefine (s - 4) g h] : Refines s (g.rangeTail structs) (h.rangeTail structs) := by
  have hclosed : Eats (op "..=") := eats_op (by decide)
  have hopen : Eats (op "..") := eats_op (by decide)
  unfold rangeTail
  infer_instance

instance [PartsRefine (s - 4) g h] : Refines s (g.letExpr structs) (h.letExpr structs) := by
  unfold letExpr
  infer_instance

instance [PartsRefine (s - 4) g h] : Refines s (g.breakExpr structs) (h.breakExpr structs) := by
  unfold breakExpr
  infer_instance

instance [PartsRefine (s - 4) g h] : Refines s g.leaving h.leaving := by unfold leaving; infer_instance

instance [HeadsRefine s g h] [PartsRefine (s - 4) g h] : Refines s (g.operand structs) (h.operand structs) := by
  unfold operand
  refine .of_get fun trees hsize => ?_
  obtain ⟨hg, hh⟩ | ⟨p, q, hg, hh, hpq⟩ := refines_blockExpr? s g h trees
  · rw [hg, hh]
    exact Refines.reads trees hsize
  · rw [hg, hh]
    exact Refines.reads trees hsize

instance [PartsRefine (s - 4) g h] : Refines s g.oneMember h.oneMember := by unfold oneMember; infer_instance

instance [PartsRefine (s - 4) g h] : Refines s g.member h.member := by
  unfold member
  refine .of_get fun trees hsize => ?_
  split
  next text rest =>
    dsimp only
    split
    next => exact Refines.reads _ hsize
    next => exact .set_bind hsize (List.suffix_cons _ _)
  next => exact Refines.reads trees hsize

instance {operand : Expr} [PartsRefine (s - 4) g h] : Refines s (g.postfixOf operand) (h.postfixOf operand) := by
  have hpostfix (operand : Expr) (fuel : Nat) :
      Refines s (g.postfixUpTo operand fuel) (h.postfixUpTo operand fuel) := by
    induction fuel generalizing operand with
    | zero => exact .failure
    | succ fuel ih => unfold postfixUpTo; infer_instance
  unfold postfixOf
  infer_instance

theorem refines_unaryOf [HeadsRefine s g h] [PartsRefine (s - 4) g h] :
    Refines s (g.unaryOf structs) (h.unaryOf structs) := by
  have hamp : Eats (op "&") := eats_op (by decide)
  have hstar : Eats (op "*") := eats_op (by decide)
  have hnot : Eats (op "!") := eats_op (by decide)
  have hminus : Eats (op "-") := eats_op (by decide)
  unfold unaryOf
  infer_instance

theorem marks_ne_nil : ∀ o ∈ binaryOperators, o.1.toList ≠ [] := by decide

theorem refines_binaryOf [PartsRefine (s - 4) g h] : Refines s (g.binaryOf structs left base) (h.binaryOf structs left base) := by
  have hequals : Eats (op "=") := eats_op (by decide)
  have hbinary (s : Nat) [PartsRefine (s - 4) g h] (left : Expr) (fuel : Nat) :
      Refines s (g.binaryUpTo structs base left fuel) (h.binaryUpTo structs base left fuel) := by
    induction fuel generalizing s left with
    | zero => exact .failure
    | succ fuel ih =>
      unfold binaryUpTo
      refine .of_get fun trees hsize => ?_
      cases hoperator : binaryOperator? trees with
      | none => exact Refines.reads trees hsize
      | some found =>
        have : Eats (op found.1) := eats_op (marks_ne_nil found (List.mem_of_find?_eq_some hoperator))
        exact Refines.reads trees hsize
  unfold binaryOf
  infer_instance

theorem refines_exprOf [OperandsRefine s g h] : Refines s (g.exprOf structs) (h.exprOf structs) := by
  unfold exprOf
  infer_instance

theorem refines_statementExprOf [OperandsRefine s g h] [PartsRefine (s - 4) g h] :
    Refines s g.statementExprOf h.statementExprOf := by
  unfold statementExprOf
  refine .bind inferInstance fun lead => .of_get fun trees hsize => ?_
  obtain ⟨hg, hh⟩ | ⟨p, q, hg, hh, hpq⟩ := refines_blockExpr? s g h trees
  · rw [hg, hh]
    exact Refines.reads trees hsize
  · rw [hg, hh]
    simp only [Option.isSome_some]
    exact Refines.reads trees hsize

/-! ### Statements -/

instance [PartsRefine (s - 4) g h] : Refines s g.localBinding h.localBinding := by unfold localBinding; infer_instance

instance [ExprsRefine s g h] [PartsRefine (s - 4) g h] : Refines s g.statement h.statement := by
  unfold statement
  refine .of_get fun start hsize => .bind (Refines.reads start hsize) fun lead trees hsuffix x rest hread => ?_
  have hle := size_le_of_suffix hsuffix
  have hahead {p q : Parser (Bool × List Tree)} [hpq : Refines s p q] (hread : p trees = some (x, rest)) :
      rest <:+ start ∧ q trees = some (x, rest) := by
    obtain ⟨hrest, hread'⟩ := hpq.reads trees (by omega) x rest hread
    exact ⟨hrest.trans hsuffix, hread'⟩
  rw [get_bind_apply] at hread ⊢
  split_ifs at hread ⊢
  · exact hahead hread
  · exact hahead hread
  · -- An item has its attributes read once more.
    have hitem : RefinesAt start (do return (false, (← g.item).trees)) (do return (false, (← h.item).trees)) :=
      Refines.reads start hsize
    exact hitem x rest hread
  · exact hahead hread

theorem refines_statementsOf [ExprsRefine s g h] [PartsRefine (s - 4) g h] :
    Refines s g.statementsOf h.statementsOf := by
  have hstatements (fuel : Nat) : Refines s (g.statementsUpTo fuel) (h.statementsUpTo fuel) := by
    induction fuel with
    | zero => exact .failure
    | succ fuel ih => unfold statementsUpTo; infer_instance
  unfold statementsOf
  infer_instance

/-! ### Functions -/

instance : Refines s (callItem named) (callItem named) := by unfold callItem; infer_instance

instance : Refines s receiver receiver := by unfold receiver; infer_instance

instance [PartsRefine s g h] : Refines s g.typedParameter h.typedParameter := by unfold typedParameter; infer_instance

instance [PartsRefine s g h] : Refines s (g.parametersUpTo first fuel) (h.parametersUpTo first fuel) := by
  induction fuel generalizing first with
  | zero => exact .failure
  | succ fuel ih =>
    unfold parametersUpTo
    refine .bind inferInstance fun isEnd => .ite inferInstance ?_
    refine .bind inferInstance fun lead => .of_get fun trees hsize => ?_
    dsimp only
    split
    next => exact Refines.reads trees hsize
    next =>
      split
      next isReference x rest hreceiver =>
        have hsuffix : rest <:+ trees := (Refines.reads (q := receiver) trees hsize _ _ hreceiver).1
        split
        next => exact Refines.reads trees hsize
        next => exact .set_bind hsize hsuffix
      next => exact Refines.reads trees hsize

instance [PartsRefine (s - 4) g h] : Refines s g.signature h.signature := by unfold signature; infer_instance

instance [PartsRefine (s - 4) g h] : Refines s g.functionBody h.functionBody := by unfold functionBody; infer_instance

instance {lead : List Tree} [PartsRefine (s - 4) g h] :
    Refines s (g.functionOf attributes lead) (h.functionOf attributes lead) := by
  unfold functionOf
  infer_instance

/-! ### Items -/

instance {start : List Tree} {o : Option (List Tree)} : Refines s (orSince start o) (orSince start o) := by
  cases o with
  | none => exact inferInstanceAs (Refines s (readSince start) (readSince start))
  | some x => exact inferInstanceAs (Refines s (pure x) (pure x))

instance [PartsRefine (s - 4) g h] : Refines s (g.constantItem valueless) (h.constantItem valueless) := by
  unfold constantItem
  infer_instance

instance [PartsRefine (s - 4) g h] : Refines s (g.aliasItem early late) (h.aliasItem early late) := by
  unfold aliasItem
  infer_instance

instance [PartsRefine s g h] : Refines s g.namedField h.namedField := by unfold namedField; infer_instance

instance [PartsRefine s g h] : Refines s g.tupleField h.tupleField := by unfold tupleField; infer_instance

instance [PartsRefine (s - 4) g h] : Refines s g.namedFields h.namedFields := by unfold namedFields; infer_instance

instance [PartsRefine (s - 4) g h] : Refines s g.tupleFields h.tupleFields := by unfold tupleFields; infer_instance

instance [PartsRefine s g h] : Refines s g.variant h.variant := by unfold variant; infer_instance

instance [PartsRefine (s - 4) g h] : Refines s (g.structItem attributes) (h.structItem attributes) := by
  unfold structItem
  infer_instance

instance [PartsRefine (s - 4) g h] : Refines s (g.enumItem attributes) (h.enumItem attributes) := by
  unfold enumItem
  infer_instance

instance [PartsRefine s g h] : Refines s g.traitFunction h.traitFunction := by unfold traitFunction; infer_instance

instance [PartsRefine s g h] : Refines s g.traitMember h.traitMember := by unfold traitMember; infer_instance

instance [HeadsRefine s g h] [PartsRefine (s - 4) g h] : Refines s (g.traitBounds relaxed stop) (h.traitBounds relaxed stop) := by
  unfold traitBounds
  infer_instance

instance [PartsRefine (s - 4) g h] : Refines s (g.traitItem attributes) (h.traitItem attributes) := by
  unfold traitItem
  infer_instance

instance [PartsRefine s g h] : Refines s g.implementationMember h.implementationMember := by
  unfold implementationMember
  infer_instance

instance [PartsRefine (s - 4) g h] : Refines s g.implementationGenerics h.implementationGenerics := by
  unfold implementationGenerics
  infer_instance

instance [PartsRefine (s - 4) g h] : Refines s g.implementationBody h.implementationBody := by
  unfold implementationBody
  infer_instance

instance {start : List Tree} [PartsRefine (s - 4) g h] :
    Refines s (g.implementationItem start attributes) (h.implementationItem start attributes) := by
  unfold implementationItem
  infer_instance

instance [HeadsRefine s g h] : Refines s (g.groupedImport rooted) (h.groupedImport rooted) := by
  unfold groupedImport
  infer_instance

instance [PartsRefine (s - 4) g h] : Refines s (g.importGroup rooted) (h.importGroup rooted) := by
  unfold importGroup
  infer_instance

theorem refines_importsOf [PartsRefine (s - 4) g h] : Refines s (g.importsOf rooted) (h.importsOf rooted) := by
  unfold importsOf
  infer_instance

instance [PartsRefine (s - 4) g h] : Refines s g.importItem h.importItem := by unfold importItem; infer_instance

instance [PartsRefine (s - 4) g h] : Refines s g.staticItem h.staticItem := by unfold staticItem; infer_instance

instance [PartsRefine s g h] : Refines s g.foreignFunction h.foreignFunction := by
  unfold foreignFunction
  infer_instance

instance [PartsRefine s g h] : Refines s g.foreignStatic h.foreignStatic := by unfold foreignStatic; infer_instance

instance [PartsRefine s g h] : Refines s g.foreignMember h.foreignMember := by unfold foreignMember; infer_instance

instance [PartsRefine (s - 4) g h] : Refines s (g.foreignItem attributes) (h.foreignItem attributes) := by
  unfold foreignItem
  infer_instance

instance : Refines s crateItem crateItem := by unfold crateItem; infer_instance

instance [PartsRefine (s - 4) g h] : Refines s (g.moduleAfter attributes) (h.moduleAfter attributes) := by
  unfold moduleAfter
  infer_instance

instance : Refines s definedMacro definedMacro := by unfold definedMacro; infer_instance

instance [PartsRefine (s - 4) g h] : Refines s g.unionItem h.unionItem := by unfold unionItem; infer_instance

theorem refines_itemOf [PartsRefine (s - 4) g h] : Refines s g.itemOf h.itemOf := by
  unfold itemOf
  infer_instance

/-! ### Levels -/

/-- Up to a level the parts of one grammar read what those of another read, and parts of lower rank read so a little
further. -/
structure RefinesBelow (level : Nat) (g h : Grammar) : Prop where
  heads : HeadsRefine (level + 3) g h
  operands : OperandsRefine (level + 2) g h
  exprs : ExprsRefine (level + 1) g h
  parts : PartsRefine level g h

/-- Each level reads a little further than the one below: before a part calls for one of its own rank, it has read a
token. -/
theorem RefinesBelow.step {level : Nat} (hbelow : RefinesBelow level g h) :
    RefinesBelow (level + 1) g.step h.step := by
  have hparts (s : Nat) (hs : s ≤ level + 4) : PartsRefine (s - 4) g h := hbelow.parts.of_le (by omega)
  have heads : HeadsRefine (level + 4) g.step h.step := by
    have := hparts (level + 4) le_rfl
    exact {
      segment := fun _ => refines_segmentOf
      binder := refines_binderOf
      binary := fun _ _ _ => refines_binaryOf
      fields := inferInstanceAs (Refines _ g.namedFields h.namedFields)
      imports := fun _ => refines_importsOf
      item := refines_itemOf }
  have operands : OperandsRefine (level + 3) g.step h.step := by
    have := hparts (level + 3) (by omega)
    have := hbelow.heads
    exact {
      toHeadsRefine := heads.of_le (by omega)
      type := fun _ => refines_typeOf
      unary := fun _ => refines_unaryOf
      pattern := refines_patternOf }
  have exprs : ExprsRefine (level + 2) g.step h.step := by
    have := hparts (level + 2) (by omega)
    have := hbelow.operands
    exact {
      toOperandsRefine := operands.of_le (by omega)
      expr := fun _ => refines_exprOf
      statementExpr := refines_statementExprOf }
  have := hparts (level + 1) (by omega)
  have := hbelow.exprs
  exact ⟨heads, operands, exprs, { toExprsRefine := exprs.of_le (by omega), statements := refines_statementsOf }⟩

theorem partsRefine_empty (s : Nat) (h : Grammar) : PartsRefine s .empty h := by
  have hnone {α : Type} (q : Parser α) : Refines s failure q :=
    ⟨fun _ _ _ _ hread => (Option.some_ne_none _ hread.symm).elim⟩
  exact {
    segment := fun _ => hnone _, binder := hnone _, binary := fun _ _ _ => hnone _, fields := hnone _
    imports := fun _ => hnone _, item := hnone _, type := fun _ => hnone _, unary := fun _ => hnone _
    pattern := hnone _, expr := fun _ => hnone _, statementExpr := hnone _, statements := hnone _ }

/-- There are no trees so few. -/
theorem partsRefine_of_lt (hs : s < 4) : PartsRefine s g h := by
  have hnone {α : Type} (p q : Parser α) : Refines s p q := ⟨fun _ hsize => by omega⟩
  exact {
    segment := fun _ => hnone _ _, binder := hnone _ _, binary := fun _ _ _ => hnone _ _, fields := hnone _ _
    imports := fun _ => hnone _ _, item := hnone _ _, type := fun _ => hnone _ _, unary := fun _ => hnone _ _
    pattern := hnone _ _, expr := fun _ => hnone _ _, statementExpr := hnone _ _, statements := hnone _ _ }

theorem RefinesBelow.of_parts {level : Nat} (hparts : PartsRefine (level + 3) g h) : RefinesBelow level g h :=
  ⟨inferInstance, (hparts.toOperandsRefine).of_le (by omega), (hparts.toExprsRefine).of_le (by omega),
    hparts.of_le (by omega)⟩

/-- A high level reads of few tokens what any level reads. -/
theorem refinesBelow_upTo (n level : Nat) : RefinesBelow level (upTo n) (upTo level) := by
  induction level generalizing n with
  | zero => exact .of_parts (partsRefine_of_lt (by omega))
  | succ level ih =>
    cases n with
    | zero => exact .of_parts (partsRefine_empty _ _)
    | succ n => exact (ih n).step

/-- What a level reads stands at the front, however many trees there are. -/
theorem partsRefine_self (n s : Nat) : PartsRefine s (upTo n) (upTo n) := by
  induction n generalizing s with
  | zero => exact partsRefine_empty s _
  | succ n ih => exact (RefinesBelow.of_parts (ih (s + 3))).step.parts.of_le (by omega)

variable {α : Type} {p : Grammar → Parser α} {n level : Nat} {x : α} {rest : List Tree}

/-- What any level reads of some trees, a level reads that is high enough for their number. -/
theorem upTo_eq_some (hp : ∀ s g h, PartsRefine s g h → Refines s (p g) (p h)) (hlevel : 4 * size trees + 4 ≤ level)
    (hread : p (upTo n) trees = some (x, rest)) : p (upTo level) trees = some (x, rest) :=
  ((hp level _ _ (refinesBelow_upTo n level).parts).reads trees hlevel x rest hread).2

/-- **Trees are read as they are at any level of nesting.** -/
theorem readTrees?_eq_some (hp : ∀ s g h, PartsRefine s g h → Refines s (p g) (p h)) :
    readTrees? p trees = some x ↔ ∃ n, p (upTo n) trees = some (x, []) := by
  have hall (level : Nat) : onAll (p (upTo level)) trees = some x ↔ p (upTo level) trees = some (x, []) := by
    simp [onAll, Option.bind_eq_some_iff]
  rw [readTrees?, forTrees, hall]
  constructor
  · intro hread
    exact ⟨_, hread⟩
  · rintro ⟨n, hread⟩
    exact upTo_eq_some hp (by omega) hread

end Grammar

end ServiceContainer.Syntax
