import ServiceContainer.Proofs.Refinement

/-!
# Types at two levels of nesting

The parsers of attributes, paths, bounds, types and generic parameters over two grammars. Each of them reads with one
grammar what it reads with the other, where the parts that it calls do. Which parts these are depends on whether it has
read a token before, so the parts come in ranks: a part calls only for parts of lower rank before it reads one.

## Main definitions

* `Grammar.HeadsRefine`, `Grammar.OperandsRefine`, `Grammar.ExprsRefine`, `Grammar.PartsRefine` — the parts up to a
  rank read of few tokens what those of another grammar read

## Main statements

* `Grammar.refines_typeOf`, `Grammar.refines_segmentOf`, `Grammar.refines_binderOf` — the parts of types
-/

namespace ServiceContainer.Syntax

open ServiceContainer.Syntax.Parser

set_option synthInstance.maxSize 4000

namespace Grammar

/-- The parts that call for no other before they have read a token. -/
class HeadsRefine (s : Nat) (g h : Grammar) : Prop where
  segment : ∀ inExpr, Refines s (g.segment inExpr) (h.segment inExpr)
  binder : Refines s g.binder h.binder
  binary : ∀ structs left base, Refines s (g.binary structs left base) (h.binary structs left base)
  fields : Refines s g.fields h.fields
  imports : ∀ rooted, Refines s (g.imports rooted) (h.imports rooted)
  item : Refines s g.item h.item

/-- These, and the parts that begin with them. -/
class OperandsRefine (s : Nat) (g h : Grammar) : Prop extends HeadsRefine s g h where
  type : ∀ plus, Refines s (g.type plus) (h.type plus)
  unary : ∀ structs, Refines s (g.unary structs) (h.unary structs)
  pattern : Refines s g.pattern h.pattern

/-- These, and the expressions, which begin with an operand. -/
class ExprsRefine (s : Nat) (g h : Grammar) : Prop extends OperandsRefine s g h where
  expr : ∀ structs, Refines s (g.expr structs) (h.expr structs)
  statementExpr : Refines s g.statementExpr h.statementExpr

/-- All parts: statements begin with an expression. -/
class PartsRefine (s : Nat) (g h : Grammar) : Prop extends ExprsRefine s g h where
  statements : Refines s g.statements h.statements

attribute [instance] HeadsRefine.segment HeadsRefine.binder HeadsRefine.binary HeadsRefine.fields HeadsRefine.imports
  HeadsRefine.item OperandsRefine.type OperandsRefine.unary OperandsRefine.pattern ExprsRefine.expr
  ExprsRefine.statementExpr PartsRefine.statements

variable {r s fuel : Nat} {g h : Grammar} {plus relaxed captures inExpr ofImpl strict first unnamed inner : Bool}
  {binder : List Tree} {stop : List Tree → Bool}

theorem HeadsRefine.of_le (hs : HeadsRefine s g h) (hle : r ≤ s) : HeadsRefine r g h where
  segment inExpr := (hs.segment inExpr).of_le hle
  binder := hs.binder.of_le hle
  binary structs left base := (hs.binary structs left base).of_le hle
  fields := hs.fields.of_le hle
  imports rooted := (hs.imports rooted).of_le hle
  item := hs.item.of_le hle

theorem OperandsRefine.of_le (hs : OperandsRefine s g h) (hle : r ≤ s) : OperandsRefine r g h where
  toHeadsRefine := hs.toHeadsRefine.of_le hle
  type plus := (hs.type plus).of_le hle
  unary structs := (hs.unary structs).of_le hle
  pattern := hs.pattern.of_le hle

theorem ExprsRefine.of_le (hs : ExprsRefine s g h) (hle : r ≤ s) : ExprsRefine r g h where
  toOperandsRefine := hs.toOperandsRefine.of_le hle
  expr structs := (hs.expr structs).of_le hle
  statementExpr := hs.statementExpr.of_le hle

theorem PartsRefine.of_le (hs : PartsRefine s g h) (hle : r ≤ s) : PartsRefine r g h where
  toExprsRefine := hs.toExprsRefine.of_le hle
  statements := hs.statements.of_le hle

instance [hs : PartsRefine s g h] : PartsRefine (s - 4) g h := hs.of_le (Nat.sub_le s 4)

/-! ### Attributes -/

section paths

variable {s : Nat}

instance : Refines s plainPath plainPath := by
  have hwords (s fuel : Nat) : Refines s (plainWords fuel) (plainWords fuel) := by
    induction fuel generalizing s with
    | zero => exact .failure
    | succ fuel ih => unfold plainWords; infer_instance
  unfold plainPath
  infer_instance

instance : Refines s builtinCall builtinCall := by unfold builtinCall; infer_instance

end paths

instance [ExprsRefine s g h] : Refines s g.exprTrees h.exprTrees := by unfold exprTrees; infer_instance

instance [OperandsRefine s g h] : Refines s g.typeTrees h.typeTrees := by unfold typeTrees; infer_instance

instance [PartsRefine (s - 4) g h] : Refines s g.bareBlock h.bareBlock := by unfold bareBlock; infer_instance

instance [ExprsRefine s g h] : Refines s g.attributeValue h.attributeValue := by unfold attributeValue; infer_instance

instance [ExprsRefine s g h] : Refines s g.attributeBody h.attributeBody := by
  unfold attributeBody
  refine .bind inferInstance fun front => .choose inferInstance inferInstance fun path => .of_get fun trees hsize => ?_
  split
  next => exact .set_bind hsize (List.suffix_cons _ _)
  next => exact Refines.reads trees hsize

instance [PartsRefine (s - 4) g h] : Refines s (g.oneAttribute inner) (h.oneAttribute inner) := by
  unfold oneAttribute
  infer_instance

instance [PartsRefine (s - 4) g h] : Refines s g.outerAttributes h.outerAttributes := by
  unfold outerAttributes
  infer_instance

instance [PartsRefine (s - 4) g h] : Refines s g.innerAttributes h.innerAttributes := by
  unfold innerAttributes
  infer_instance

instance [PartsRefine (s - 4) g h] : Refines s g.attributes h.attributes := by unfold attributes; infer_instance

instance [PartsRefine (s - 4) g h] : Refines s g.block h.block := by unfold block; infer_instance

/-! ### Paths -/

instance [HeadsRefine s g h] : Refines s (g.furtherSegments inExpr fuel) (h.furtherSegments inExpr fuel) := by
  induction fuel with
  | zero => exact .failure
  | succ fuel ih => unfold furtherSegments; infer_instance

instance [HeadsRefine s g h] : Refines s (g.path inExpr) (h.path inExpr) := by unfold path; infer_instance

instance [HeadsRefine s g h] [PartsRefine (s - 4) g h] :
    Refines s (g.qualifiedPath inExpr) (h.qualifiedPath inExpr) := by
  have : Eats (op "<") := eats_op (by decide)
  unfold qualifiedPath
  infer_instance

instance [PartsRefine (s - 4) g h] : Refines s g.constantArgument h.constantArgument := by
  unfold constantArgument
  infer_instance

/-! ### Bounds -/

instance [PartsRefine (s - 4) g h] : Refines s (g.result plus) (h.result plus) := by
  have : Eats (op "->") := eats_op (by decide)
  unfold result
  infer_instance

instance [PartsRefine (s - 4) g h] : Refines s g.callArguments h.callArguments := by
  unfold callArguments
  infer_instance

instance : Refines s constModifier constModifier := by unfold constModifier; infer_instance

instance [HeadsRefine s g h] [PartsRefine (s - 4) g h] : Refines s (g.traitBound relaxed) (h.traitBound relaxed) := by
  unfold traitBound
  infer_instance

instance : Refines s capture capture := by unfold capture; infer_instance

instance [HeadsRefine s g h] [PartsRefine (s - 4) g h] :
    Refines s (g.bound relaxed captures) (h.bound relaxed captures) := by
  unfold bound
  infer_instance

instance [HeadsRefine s g h] [PartsRefine (s - 4) g h] :
    Refines s (g.boundsUpTo plus ofImpl fuel) (h.boundsUpTo plus ofImpl fuel) := by
  induction fuel with
  | zero => exact .failure
  | succ fuel ih => unfold boundsUpTo; infer_instance

instance [HeadsRefine s g h] [PartsRefine (s - 4) g h] : Refines s (g.bounds plus ofImpl) (h.bounds plus ofImpl) := by
  unfold bounds
  infer_instance

instance [HeadsRefine s g h] [PartsRefine (s - 4) g h] : Refines s (g.declaredBounds stop) (h.declaredBounds stop) := by
  unfold declaredBounds
  infer_instance

/-! ### Segments -/

instance [PartsRefine s g h] : Refines s g.genericArgument h.genericArgument := by
  unfold genericArgument
  infer_instance

instance [PartsRefine (s - 4) g h] : Refines s g.angleArguments h.angleArguments := by
  have : Eats (op "<") := eats_op (by decide)
  unfold angleArguments
  infer_instance

theorem refines_segmentOf [PartsRefine (s - 4) g h] : Refines s (g.segmentOf inExpr) (h.segmentOf inExpr) := by
  unfold segmentOf
  infer_instance

/-! ### Types -/

instance [HeadsRefine s g h] [PartsRefine (s - 4) g h] : Refines s (g.objectType plus) (h.objectType plus) := by
  unfold objectType
  infer_instance

instance [HeadsRefine s g h] [PartsRefine (s - 4) g h] :
    Refines s (g.furtherBounds strict fuel) (h.furtherBounds strict fuel) := by
  induction fuel with
  | zero => exact .failure
  | succ fuel ih => unfold furtherBounds; infer_instance

instance [PartsRefine s g h] : Refines s g.parenthesized h.parenthesized := by
  unfold parenthesized
  infer_instance

instance [HeadsRefine s g h] [PartsRefine (s - 4) g h] : Refines s (g.parenType plus) (h.parenType plus) := by
  unfold parenType
  refine .bind inferInstance fun t => ?_
  cases t with
  | whole t => infer_instance
  | bound b => infer_instance
  | single t =>
    refine .bind inferInstance fun trees => .ite ?_ inferInstance
    split <;> infer_instance

instance [PartsRefine s g h] : Refines s (g.functionTypeParameter first) (h.functionTypeParameter first) := by
  unfold functionTypeParameter
  infer_instance

instance : Refines s abi abi := by unfold abi; infer_instance

instance [PartsRefine s g h] :
    Refines s (g.functionTypeParameters first fuel) (h.functionTypeParameters first fuel) := by
  induction fuel generalizing first with
  | zero => exact .failure
  | succ fuel ih => unfold functionTypeParameters; infer_instance

instance [PartsRefine (s - 4) g h] : Refines s (g.functionType binder) (h.functionType binder) := by
  unfold functionType
  infer_instance

instance [HeadsRefine s g h] [PartsRefine (s - 4) g h] :
    Refines s (g.pathType binder plus) (h.pathType binder plus) := by
  unfold pathType
  infer_instance

theorem refines_typeOf [HeadsRefine s g h] [PartsRefine (s - 4) g h] : Refines s (g.typeOf plus) (h.typeOf plus) := by
  have hstar : Eats (op "*") := eats_op (by decide)
  have hamp : Eats (op "&") := eats_op (by decide)
  unfold typeOf
  infer_instance

/-! ### Generic parameters -/

instance : Refines s visibility visibility := by
  unfold visibility
  refine .bind inferInstance fun front => .ite (.bind inferInstance fun lead => ?_) inferInstance
  refine .of_get fun trees hsize => ?_
  split
  next inner rest =>
    split
    next => exact .set_bind hsize (List.suffix_cons _ _)
    next => exact Refines.reads _ hsize
  next => exact Refines.reads trees hsize

instance : Refines s (lifetimeParameter stop) (lifetimeParameter stop) := by
  unfold lifetimeParameter
  infer_instance

instance [PartsRefine (s - 4) g h] : Refines s g.typeParameter h.typeParameter := by
  unfold typeParameter
  infer_instance

instance [PartsRefine (s - 4) g h] : Refines s g.constParameter h.constParameter := by
  unfold constParameter
  infer_instance

instance [PartsRefine (s - 4) g h] : Refines s (g.genericParameter unnamed) (h.genericParameter unnamed) := by
  unfold genericParameter
  infer_instance

instance [PartsRefine (s - 4) g h] : Refines s g.genericParameters h.genericParameters := by
  unfold genericParameters
  infer_instance

theorem refines_binderOf [PartsRefine (s - 4) g h] : Refines s g.binderOf h.binderOf := by
  unfold binderOf
  infer_instance

instance [PartsRefine s g h] : Refines s g.condition h.condition := by unfold condition; infer_instance

instance [PartsRefine (s - 4) g h] : Refines s g.whereClause h.whereClause := by
  unfold whereClause
  infer_instance

end Grammar

end ServiceContainer.Syntax
