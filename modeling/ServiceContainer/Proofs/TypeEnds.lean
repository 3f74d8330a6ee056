import ServiceContainer.Proofs.Carrying
import ServiceContainer.Proofs.ItemLevels

/-!
# Where a type ends

A type that is read from the front of a list does not depend on what follows it, if that is nothing or begins with a
comma. The parsers look beyond what they read, so this is a fact about each of them: none has a test that a comma or the
end of the list would pass. Inside angle brackets a type is followed by more arguments, and these stay the same.

## Main definitions

* `Grammar.TypesCarry` — a grammar whose parts of types carry over from one ending to another

## Main statements

* `Grammar.typesCarry_upTo` — the parts of types carry over at every level of nesting
* `Grammar.type_append_iff` — a type is read before a comma as it is read alone
-/

namespace ServiceContainer.Syntax

open ServiceContainer.Syntax.Parser

set_option synthInstance.maxSize 4000

namespace Grammar

/-- The parts of types carry over from one ending to another. -/
class TypesCarry (g : Grammar) : Prop where
  refines : ∀ s, PartsRefine s g g
  type : ∀ plus k a b [Ending a b], Carries k a b (g.type plus) (g.type plus)
  segment : ∀ inExpr k a b [Ending a b], Carries k a b (g.segment inExpr) (g.segment inExpr)
  binder : ∀ k a b [Ending a b], Carries k a b g.binder g.binder

attribute [instance] TypesCarry.refines TypesCarry.type TypesCarry.segment TypesCarry.binder

variable {g : Grammar} {k : Nat} {a b t : List Tree} [TypesCarry g] [Ending a b]
  {plus relaxed captures inExpr ofImpl strict unnamed inner : Bool} {binder : List Tree}

theorem same_colons (look : List Tree → Bool) (hlook : ∀ t, Same (look (t ++ a)) (look (t ++ b))) :
    Same (atOperator "::" (t ++ a) && look ((t ++ a).drop 2)) (atOperator "::" (t ++ b) && look ((t ++ b).drop 2)) :=
  have h : Ending a b := inferInstance
  .ahead look (two_le_length_of_colons h) hlook

instance : Carries k a b g.typeTrees g.typeTrees := by unfold typeTrees; infer_instance

instance : Carries k a b (g.oneAttribute inner) (g.oneAttribute inner) := by unfold oneAttribute; infer_instance

instance : Carries k a b g.attributes g.attributes := by
  have : Shortens (g.oneAttribute false) := by unfold oneAttribute; infer_instance
  unfold attributes outerAttributes
  infer_instance

instance : Carries k a b g.constantArgument g.constantArgument := by
  unfold constantArgument block
  infer_instance

instance : Carries (t.length + 1) a b (g.furtherSegments inExpr ((t ++ a).length + 1))
    (g.furtherSegments inExpr ((t ++ b).length + 1)) := by
  have hahead (t : List Tree) : Same (atOperator "::" (t ++ a) && !atGroup .paren ((t ++ a).drop 2))
      (atOperator "::" (t ++ b) && !atGroup .paren ((t ++ b).drop 2)) :=
    same_colons (fun trees => !atGroup .paren trees) fun t => inferInstance
  have hloop (n m : Nat) : Carries m a b (g.furtherSegments inExpr n) (g.furtherSegments inExpr m) := by
    induction n generalizing m with
    | zero => exact inferInstanceAs (Carries m a b failure _)
    | succ n ih =>
      cases m with
      | zero => infer_instance
      | succ m => unfold furtherSegments; infer_instance
  exact .loop hloop

instance : Carries k a b (g.path inExpr) (g.path inExpr) := by unfold path; infer_instance

instance : Carries k a b (g.qualifiedPath inExpr) (g.qualifiedPath inExpr) := by
  unfold qualifiedPath
  infer_instance

instance : Carries k a b (g.result plus) (g.result plus) := by unfold result; infer_instance

instance : Carries k a b g.callArguments g.callArguments := by unfold callArguments; infer_instance

instance : Carries k a b constModifier constModifier := by unfold constModifier; infer_instance

instance : Carries k a b (g.traitBound relaxed) (g.traitBound relaxed) := by
  have hahead (t : List Tree) : Same (atOperator "::" (t ++ a) && atGroup .paren ((t ++ a).drop 2))
      (atOperator "::" (t ++ b) && atGroup .paren ((t ++ b).drop 2)) := same_colons (atGroup .paren) fun t => inferInstance
  unfold traitBound
  infer_instance

instance : Carries k a b capture capture := by
  unfold capture
  refine .bind inferInstance fun lead => .angle (fun k a b _ => ?_) fun names close => inferInstance
  infer_instance

instance : Carries k a b (g.bound relaxed captures) (g.bound relaxed captures) := by unfold bound; infer_instance

instance : Carries k a b (g.bounds plus ofImpl) (g.bounds plus ofImpl) := by
  have hloop (n m : Nat) : Carries m a b (g.boundsUpTo plus ofImpl n) (g.boundsUpTo plus ofImpl m) := by
    induction n generalizing m with
    | zero => exact inferInstanceAs (Carries m a b failure _)
    | succ n ih =>
      cases m with
      | zero => infer_instance
      | succ m => unfold boundsUpTo; infer_instance
  exact .get_bind_length fun t => .loop hloop

instance {stop : List Tree → Bool} [∀ t, Same (stop (t ++ a)) (stop (t ++ b))] :
    Carries k a b (g.declaredBounds stop) (g.declaredBounds stop) := by
  unfold declaredBounds
  infer_instance

/-! #### In angle brackets -/

section angle

variable {a b t : List Tree} [AngleEnding a b]

instance : Same (t ++ a).isEmpty (t ++ b).isEmpty := ⟨eq_of_angle (fun _ _ _ => rfl) a b t⟩

instance : Same (atOperator "," (t ++ a)) (atOperator "," (t ++ b)) := by
  refine ⟨eq_of_angle (fun u xs ys => ?_) a b t⟩
  match u with
  | .token (.punct m joint) => by_cases hm : (m == ',') = true <;> simp [atOperator, afterMarks, hm]
  | .token (.ident _) | .token (.lifetime _) | .token (.literal _) | .group _ _ | .phrase _ _ => rfl

instance : Carries k a b g.genericArgument g.genericArgument := by
  have hend : Ending a b := inferInstance
  have hahead (t : List Tree) : Same (atLifetime (t ++ a) && !atOperator "+" ((t ++ a).drop 1))
      (atLifetime (t ++ b) && !atOperator "+" ((t ++ b).drop 1)) :=
    .ahead (fun trees => !atOperator "+" trees) (length_pos_of_atLifetime hend) fun t => inferInstance
  unfold genericArgument
  infer_instance

end angle

instance : Carries k a b g.angleArguments g.angleArguments := by
  unfold angleArguments
  refine .bind inferInstance fun front => .angle (fun k a b _ => ?_) fun arguments close => inferInstance
  infer_instance

theorem carries_segmentOf : Carries k a b (g.segmentOf inExpr) (g.segmentOf inExpr) := by
  have hahead (t : List Tree) : Same (atOperator "::" (t ++ a) && atOperator "<" ((t ++ a).drop 2))
      (atOperator "::" (t ++ b) && atOperator "<" ((t ++ b).drop 2)) := same_colons (atOperator "<") fun t => inferInstance
  unfold segmentOf
  infer_instance

instance : Carries k a b builtinCall builtinCall := by unfold builtinCall; infer_instance

instance : Carries k a b (g.objectType plus) (g.objectType plus) := by unfold objectType; infer_instance

theorem carries_furtherBounds : Carries (t.length + 1) a b (g.furtherBounds strict ((t ++ a).length + 1))
    (g.furtherBounds strict ((t ++ b).length + 1)) := by
  have hloop (n m : Nat) : Carries m a b (g.furtherBounds strict n) (g.furtherBounds strict m) := by
    induction n generalizing m with
    | zero => exact inferInstanceAs (Carries m a b failure _)
    | succ n ih =>
      cases m with
      | zero => infer_instance
      | succ m => unfold furtherBounds; infer_instance
  exact .loop hloop

attribute [instance] carries_furtherBounds

instance : Carries k a b (g.parenType plus) (g.parenType plus) := by
  unfold parenType
  refine @Carries.bind _ _ _ _ _ _ _ _ _ inferInstance (fun t => ?_) inferInstance fun t => ?_
  · cases t with
    | whole t => infer_instance
    | bound b => infer_instance
    | single t => exact .of_refines fun s => .bind inferInstance fun trees => .ite (by split <;> infer_instance) inferInstance
  · cases t with
    | whole t => infer_instance
    | bound b => infer_instance
    | single t =>
      refine .get_bind fun trees => .ite ?_ inferInstance
      split <;> infer_instance

instance : Carries k a b abi abi := by unfold abi; infer_instance

instance : Carries k a b (g.functionType binder) (g.functionType binder) := by
  unfold functionType
  infer_instance

instance : Carries k a b (g.pathType binder plus) (g.pathType binder plus) := by
  unfold pathType
  infer_instance

theorem carries_typeOf : Carries k a b (g.typeOf plus) (g.typeOf plus) := by
  have hend : Ending a b := inferInstance
  have hbuiltin (t : List Tree) : Same (atBuiltin (t ++ a)) (atBuiltin (t ++ b)) :=
    .ahead (atOperator "#") (fun h => length_pos_of_word? hend (beq_iff_eq.mp h)) fun t => inferInstance
  have hdyn (t : List Tree) : Same (atWord "dyn" (t ++ a) && atOperator "*" ((t ++ a).drop 1))
      (atWord "dyn" (t ++ b) && atOperator "*" ((t ++ b).drop 1)) :=
    .ahead (atOperator "*") (fun h => length_pos_of_word? hend (beq_iff_eq.mp h)) fun t => inferInstance
  unfold typeOf
  infer_instance

/-! #### Binders -/

section angle

variable {a b t : List Tree} [AngleEnding a b] {stop : List Tree → Bool}

instance [∀ t, Same (stop (t ++ a)) (stop (t ++ b))] :
    Carries k a b (lifetimeParameter stop) (lifetimeParameter stop) := by
  unfold lifetimeParameter
  infer_instance

instance : Carries k a b g.typeParameter g.typeParameter := by unfold typeParameter; infer_instance

instance : Carries k a b g.constParameter g.constParameter := by unfold constParameter; infer_instance

instance : Carries k a b (g.genericParameter unnamed) (g.genericParameter unnamed) := by
  unfold genericParameter
  infer_instance

end angle

theorem carries_binderOf : Carries k a b g.binderOf g.binderOf := by
  unfold binderOf
  refine .bind inferInstance fun lead => .angle (fun k a b _ => ?_) fun parameters close => inferInstance
  infer_instance

/-! #### All levels -/

theorem typesCarry_upTo (n : Nat) : TypesCarry (upTo n) := by
  induction n with
  | zero =>
    have hnone {α : Type} (q : Parser α) (k : Nat) (a b : List Tree) : Carries k a b failure q := inferInstance
    exact {
      refines := partsRefine_self 0
      type := fun _ k a b _ => hnone _ k a b
      segment := fun _ k a b _ => hnone _ k a b
      binder := fun k a b _ => hnone _ k a b }
  | succ n ih =>
    exact {
      refines := partsRefine_self (n + 1)
      type := fun _ _ _ _ _ => carries_typeOf
      segment := fun _ _ _ _ _ => carries_segmentOf
      binder := fun _ _ _ _ => carries_binderOf }

/-- What is left after a type stood at the end. -/
theorem suffix_of_type {n : Nat} {trees rest : List Tree} {type : Tree}
    (h : (upTo n).type plus trees = some (type, rest)) : rest <:+ trees :=
  have := partsRefine_self n
  Suffixed.suffix trees type rest h

/-- **A type is read before a comma as it is read alone.** -/
theorem type_append_iff {n : Nat} {trees rest : List Tree} {type : Tree} (hrest : IsEnd rest) :
    (upTo n).type plus (trees ++ rest) = some (type, rest) ↔ (upTo n).type plus trees = some (type, []) := by
  have carries := (typesCarry_upTo n).type plus (trees.length + 1)
  have hend : IsEnd [] := .inl rfl
  constructor
  · intro h
    have : Ending rest [] := .comma hrest hend
    simpa using (carries rest []).reads trees type [] (Nat.lt_succ_self _) h
  · intro h
    have : Ending [] rest := .comma hend hrest
    simpa using (carries [] rest).reads trees type [] (Nat.lt_succ_self _) (by simpa using h)

end Grammar

end ServiceContainer.Syntax
