import ServiceContainer.Proofs.Words
import ServiceContainer.Syntax.Reader

/-!
# The words of types

The values that the grammar reads have the words of their trees; an item has those of its parts. The parsers of
attributes, paths, bounds, types and generic parameters hand on words if the parts of the grammar do.

## Main definitions

* `Grammar.PartsKeep` — the parts of a grammar hand on words

## Main statements

* `Grammar.keeps_typeOf`, `Grammar.keeps_segmentOf`, `Grammar.keeps_binderOf` — the parts that are read here
-/

namespace ServiceContainer.Syntax

open ServiceContainer.Syntax.Parser
open Lexical (From)

set_option synthInstance.maxSize 40000

/-! ### Values -/

instance : HasWords Expr := ⟨fun x => words x.trees⟩

instance : HasWords PatternShape :=
  ⟨fun shape => match shape with
    | .constant plain => words plain
    | .range _ | .verbatim | .other => []⟩

instance : HasWords Pattern := ⟨fun p => words p.shape ++ words p.trees⟩

instance : HasWords AttributeForm :=
  ⟨fun form => match form with
    | .bare => []
    | .list _ arguments => words arguments
    | .value trees => words trees⟩

instance : HasWords AttributeBody := ⟨fun body => words body.path ++ words body.form⟩

instance : HasWords Attribute := ⟨fun a => words a.body⟩

instance : HasWords Grammar.Parenthesized :=
  ⟨fun x => match x with
    | .whole t | .bound t | .single t => words t⟩

instance : HasWords Parameter := ⟨fun p => words p.type⟩

instance : HasWords Signature := ⟨fun s => words (s.parameters, s.returns, s.trees)⟩

instance : HasWords Function := ⟨fun f => words (f.attributes, f.lead, f.signature, f.body)⟩

instance : HasWords Member :=
  ⟨fun m => match m with
    | .function f => words f
    | .other trees => words trees⟩

instance : HasWords Contract := ⟨fun c => words c.type⟩

instance : HasWords Implementation := ⟨fun i => words (i.attributes, i.lead, i.contract, i.target, i.members)⟩

instance : HasWords Definition := ⟨fun d => words (d.attributes, d.name, d.lead, d.body)⟩

instance : HasWords Item :=
  ⟨fun x => match x with
    | .definition d => words d
    | .implementation i => words i
    | .other trees => words trees⟩

instance : HasWords ModuleItem := ⟨fun m => words (m.attributes, m.lead, m.items)⟩

section

variable {known : Prop}

instance {shape : ExprShape} {verbatim : Bool} {trees : List Tree} [h : From known trees] :
    From known (Expr.mk shape verbatim trees) := ⟨h.lexical⟩

instance {x : Expr} [h : From known x] : From known x.trees := ⟨h.lexical⟩

instance {attributes : List Tree} {x : Expr} [From known attributes] [From known x] :
    From known (x.withAttributes attributes) := by
  unfold Expr.withAttributes
  infer_instance

section attributes

variable {path inner : List Tree} {form : AttributeForm} {d : Delimiter} {body : AttributeBody} {a : Attribute}
  {attributes : List Attribute}

theorem lexical_body : Lexical (AttributeBody.mk path form) ↔ Lexical path ∧ Lexical form := List.forall_mem_append

instance : From known AttributeForm.bare := ⟨fun _ => lexical_of_words_eq_nil rfl⟩

instance [h : From known inner] : From known (AttributeForm.list d inner) := ⟨h.lexical⟩

instance [h : From known inner] : From known (AttributeForm.value inner) := ⟨h.lexical⟩

instance [hpath : From known path] [hform : From known form] : From known (AttributeBody.mk path form) :=
  ⟨fun hknown => lexical_body.mpr ⟨hpath.lexical hknown, hform.lexical hknown⟩⟩

instance {outer : Bool} [h : From known body] : From known (Attribute.mk outer body) := ⟨h.lexical⟩

theorem Lexical.attributeBody_trees (h : Lexical body) : Lexical body.trees := by
  obtain ⟨path, form⟩ := body
  obtain ⟨hpath, hform⟩ := lexical_body.mp h
  refine lexical_append.mpr ⟨hpath, ?_⟩
  cases form with
  | bare => exact lexical_nil
  | list d inner => exact lexical_cons.mpr ⟨lexical_group.mpr hform, lexical_nil⟩
  | value trees => exact lexical_append.mpr ⟨lexical_operator _, hform⟩

instance [h : From known body] : From known body.trees := ⟨fun hknown => (h.lexical hknown).attributeBody_trees⟩

instance [h : From known a] : From known a.trees := by
  have : From known a.body := ⟨h.lexical⟩
  unfold Attribute.trees
  infer_instance

instance [From known attributes] : From known (outerTrees attributes) := by unfold outerTrees; infer_instance

instance [From known attributes] : From known (innerTrees attributes) := by unfold innerTrees; infer_instance

end attributes

section paths

variable {t arguments : Tree} {path : List Tree} {closed : Bool}

theorem Lexical.onLastSegment (harguments : Lexical arguments) (hpath : Lexical path) :
    Lexical (Syntax.onLastSegment arguments path) := by
  fun_induction Syntax.onLastSegment arguments path with
  | case1 => exact lexical_nil
  | case2 name rest =>
    have hname := (lexical_cons.mp (lexical_phrase.mp (lexical_cons.mp hpath).1)).1
    refine lexical_cons.mpr ⟨lexical_phrase.mpr (lexical_cons.mpr ⟨hname, ?_⟩), lexical_nil⟩
    exact lexical_cons.mpr ⟨harguments, lexical_nil⟩
  | case3 t ts _ ih =>
    obtain ⟨ht, hts⟩ := lexical_cons.mp hpath
    exact lexical_cons.mpr ⟨ht, ih hts⟩

instance [harguments : From known arguments] [hpath : From known path] : From known (onLastSegment arguments path) :=
  ⟨fun hknown => (harguments.lexical hknown).onLastSegment (hpath.lexical hknown)⟩

theorem Lexical.joinCommas {xs : List (List Tree × List Tree)} (h : Lexical xs) :
    Lexical (Syntax.joinCommas closed xs) := by
  induction xs generalizing closed with
  | nil => exact lexical_nil
  | cons x rest ih =>
    obtain ⟨hx, hrest⟩ := lexical_cons.mp h
    obtain ⟨hvalue, hcomma⟩ := lexical_mk.mp hx
    refine lexical_append.mpr ⟨lexical_append.mpr ⟨lexical_append.mpr ⟨?_, hvalue⟩, hcomma⟩, ih hrest⟩
    split
    · exact lexical_nil
    · exact lexical_operator _

instance {xs : List (List Tree × List Tree)} [h : From known xs] : From known (joinCommas closed xs) :=
  ⟨fun hknown => (h.lexical hknown).joinCommas⟩

instance {xs : List ((Bool × List Tree) × List Tree)} [From known xs] : From known (lifetimesFirst xs) := by
  unfold lifetimesFirst
  infer_instance

theorem Lexical.bindingName (h : Lexical t) : Lexical (Syntax.bindingName t) := by
  unfold Syntax.bindingName
  split
  · exact lexical_phrase.mp (lexical_cons.mp (lexical_phrase.mp h)).1
  · exact lexical_cons.mpr ⟨h, lexical_nil⟩

instance [h : From known t] : From known (bindingName t) := ⟨fun hknown => (h.lexical hknown).bindingName⟩

instance {bounds : List Tree} [From known bounds] : From known (afterColon bounds) := by
  unfold afterColon
  infer_instance

end paths

end

namespace Grammar

/-- All parts hand on words. -/
class PartsKeep (g : Grammar) : Prop where
  type : ∀ plus, Keeps True (g.type plus)
  segment : ∀ inExpr, Keeps True (g.segment inExpr)
  binder : Keeps True g.binder
  expr : ∀ structs, Keeps True (g.expr structs)
  unary : ∀ structs, Keeps True (g.unary structs)
  binary : ∀ structs left base, Keeps (Lexical left) (g.binary structs left base)
  statementExpr : Keeps True g.statementExpr
  pattern : Keeps True g.pattern
  statements : Keeps True g.statements
  fields : Keeps True g.fields
  imports : ∀ rooted, Keeps True (g.imports rooted)
  item : Keeps True g.item

variable {known : Prop} {g : Grammar} [hg : PartsKeep g] {fuel : Nat}
  {plus relaxed captures inExpr ofImpl strict first unnamed inner structs rooted : Bool} {binder : List Tree}
  {stop : List Tree → Bool} {left : Expr} {base : Precedence}

instance : Keeps known (g.type plus) := (hg.type plus).mono fun _ => trivial

instance : Keeps known (g.segment inExpr) := (hg.segment inExpr).mono fun _ => trivial

instance : Keeps known g.binder := hg.binder.mono fun _ => trivial

instance : Keeps known (g.expr structs) := (hg.expr structs).mono fun _ => trivial

instance : Keeps known (g.unary structs) := (hg.unary structs).mono fun _ => trivial

instance [h : From known left] : Keeps known (g.binary structs left base) :=
  (hg.binary structs left base).mono h.lexical

instance : Keeps known g.statementExpr := hg.statementExpr.mono fun _ => trivial

instance : Keeps known g.pattern := hg.pattern.mono fun _ => trivial

instance : Keeps known g.statements := hg.statements.mono fun _ => trivial

instance : Keeps known g.fields := hg.fields.mono fun _ => trivial

instance : Keeps known (g.imports rooted) := (hg.imports rooted).mono fun _ => trivial

instance : Keeps known g.item := hg.item.mono fun _ => trivial

/-! ### Attributes -/

instance : Keeps known plainPath := by
  have hwords (known : Prop) (fuel : Nat) : Keeps known (plainWords fuel) := by
    induction fuel generalizing known with
    | zero => unfold plainWords; infer_instance
    | succ fuel ih => unfold plainWords; infer_instance
  unfold plainPath
  infer_instance

instance : Keeps known builtinCall := by unfold builtinCall; infer_instance

instance : Keeps known g.exprTrees := by unfold exprTrees; infer_instance

instance : Keeps known g.typeTrees := by unfold typeTrees; infer_instance

instance : Keeps known g.bareBlock := by unfold bareBlock; infer_instance

instance : Keeps known g.attributeValue := by unfold attributeValue; infer_instance

instance : Keeps known g.attributeBody := by
  unfold attributeBody
  refine .bind inferInstance fun front => .choose inferInstance inferInstance fun path => .of_get ?_
  intro hknown trees htrees
  split
  next d inner rest =>
    obtain ⟨hgroup, hrest⟩ := lexical_cons.mp htrees
    exact Keeps.keeps (And.intro (And.intro hknown (lexical_group.mp hgroup)) hrest) _ htrees
  next => exact Keeps.keeps hknown trees htrees

instance : Keeps known (g.oneAttribute inner) := by
  unfold oneAttribute
  infer_instance

instance : Keeps known g.outerAttributes := by
  unfold outerAttributes
  infer_instance

instance : Keeps known g.innerAttributes := by
  unfold innerAttributes
  infer_instance

instance : Keeps known g.attributes := by unfold attributes; infer_instance

instance : Keeps known g.block := by unfold block; infer_instance

/-! ### Paths -/

instance : Keeps known (g.furtherSegments inExpr fuel) := by
  induction fuel generalizing known with
  | zero => unfold furtherSegments; infer_instance
  | succ fuel ih => unfold furtherSegments; infer_instance

instance : Keeps known (g.path inExpr) := by unfold path; infer_instance

instance : Keeps known (g.qualifiedPath inExpr) := by unfold qualifiedPath; infer_instance

instance : Keeps known g.constantArgument := by unfold constantArgument; infer_instance

/-! ### Bounds -/

instance : Keeps known (g.result plus) := by unfold result; infer_instance

instance {t : Option Tree} [h : From known t] : From known (resultTrees t) := by
  cases t with
  | none => exact ⟨fun _ => lexical_nil⟩
  | some t =>
    have : From known t := ⟨h.lexical⟩
    unfold resultTrees
    infer_instance

instance : Keeps known g.callArguments := by unfold callArguments; infer_instance

instance : Keeps known constModifier := by unfold constModifier; infer_instance

instance : Keeps known (g.traitBound relaxed) := by unfold traitBound; infer_instance

instance : Keeps known capture := by unfold capture; infer_instance

instance : Keeps known (g.bound relaxed captures) := by unfold bound; infer_instance

instance : Keeps known (g.boundsUpTo plus ofImpl fuel) := by
  induction fuel generalizing known with
  | zero => unfold boundsUpTo; infer_instance
  | succ fuel ih => unfold boundsUpTo; infer_instance

instance : Keeps known (g.bounds plus ofImpl) := by unfold bounds; infer_instance

instance : Keeps known (g.declaredBounds stop) := by unfold declaredBounds; infer_instance

/-! ### Segments -/

instance : Keeps known g.genericArgument := by unfold genericArgument; infer_instance

instance : Keeps known g.angleArguments := by unfold angleArguments; infer_instance

theorem keeps_segmentOf : Keeps known (g.segmentOf inExpr) := by unfold segmentOf; infer_instance

/-! ### Types -/

instance : Keeps known (g.objectType plus) := by unfold objectType; infer_instance

instance : Keeps known (g.furtherBounds strict fuel) := by
  induction fuel generalizing known with
  | zero => unfold furtherBounds; infer_instance
  | succ fuel ih => unfold furtherBounds; infer_instance

instance {t : Tree} [h : From known t] : From known (Parenthesized.whole t) := ⟨h.lexical⟩

instance {t : Tree} [h : From known t] : From known (Parenthesized.bound t) := ⟨h.lexical⟩

instance {t : Tree} [h : From known t] : From known (Parenthesized.single t) := ⟨h.lexical⟩

instance : Keeps known g.parenthesized := by unfold parenthesized; infer_instance

theorem lexical_parenthesizedBound? {t b : Tree} (ht : Lexical t) (h : parenthesizedBound? t = some b) : Lexical b := by
  unfold parenthesizedBound? at h
  split at h
  all_goals cases h
  · exact lexical_phrase.mpr (lexical_cons.mpr ⟨lexical_group.mpr (lexical_phrase.mp ht), lexical_nil⟩)
  · exact (lexical_cons.mp (lexical_phrase.mp ht)).1
  · have hparts := lexical_phrase.mp (lexical_cons.mp (lexical_phrase.mp ht)).1
    exact lexical_phrase.mpr (lexical_cons.mpr ⟨lexical_group.mpr hparts, lexical_nil⟩)
  · exact (lexical_cons.mp (lexical_phrase.mp ht)).1

instance : Keeps known (g.parenType plus) := by
  unfold parenType
  refine .bind inferInstance fun t => ?_
  cases t with
  | whole t =>
    have : From (known ∧ Lexical (Parenthesized.whole t)) t := ⟨And.right⟩
    infer_instance
  | bound b =>
    have : From (known ∧ Lexical (Parenthesized.bound b)) b := ⟨And.right⟩
    infer_instance
  | single t =>
    have : From (known ∧ Lexical (Parenthesized.single t)) t := ⟨And.right⟩
    refine .bind inferInstance fun trees => .ite ?_ inferInstance
    -- The bound is no part of the type as it was read, so its words are looked at apart.
    cases hb : parenthesizedBound? t with
    | none => infer_instance
    | some b => exact .learn (fun h => lexical_parenthesizedBound? h.1.2 hb) inferInstance

instance : Keeps known (g.functionTypeParameter first) := by unfold functionTypeParameter; infer_instance

instance : Keeps known abi := by unfold abi; infer_instance

instance : Keeps known (g.functionTypeParameters first fuel) := by
  induction fuel generalizing first known with
  | zero => unfold functionTypeParameters; infer_instance
  | succ fuel ih => unfold functionTypeParameters; infer_instance

instance [From known binder] : Keeps known (g.functionType binder) := by unfold functionType; infer_instance

instance [From known binder] : Keeps known (g.pathType binder plus) := by unfold pathType; infer_instance

theorem keeps_typeOf : Keeps known (g.typeOf plus) := by unfold typeOf; infer_instance

/-! ### Generic parameters -/

theorem lexical_restriction? {inner path : List Tree} (hinner : Lexical inner) (h : restriction? inner = some path) :
    Lexical path := by
  unfold restriction? at h
  split at h
  · rw [Option.ite_none_right_eq_some, Option.some.injEq] at h
    exact h.2 ▸ hinner
  · split at h
    · exact Keeps.of_onAll hinner h
    · cases h

instance : Keeps known visibility := by
  unfold visibility
  -- The path of a restriction is read inside its group, apart from the trees that follow.
  refine .bind inferInstance fun front => .ite (.bind inferInstance fun lead => .of_get ?_) inferInstance
  intro hknown trees htrees
  split
  next inner rest =>
    obtain ⟨hgroup, hrest⟩ := lexical_cons.mp htrees
    cases hpath : restriction? inner with
    | none => exact Keeps.keeps hknown _ htrees
    | some path =>
      have hinside := lexical_restriction? (lexical_group.mp hgroup) hpath
      exact Keeps.keeps (And.intro (And.intro hknown hinside) hrest) _ htrees
  next => exact Keeps.keeps hknown trees htrees

instance : Keeps known (lifetimeParameter stop) := by unfold lifetimeParameter; infer_instance

instance : Keeps known g.typeParameter := by unfold typeParameter; infer_instance

instance : Keeps known g.constParameter := by unfold constParameter; infer_instance

instance : Keeps known (g.genericParameter unnamed) := by unfold genericParameter; infer_instance

instance : Keeps known g.genericParameters := by unfold genericParameters; infer_instance

theorem keeps_binderOf : Keeps known g.binderOf := by unfold binderOf; infer_instance

instance : Keeps known g.condition := by unfold condition; infer_instance

instance : Keeps known g.whereClause := by unfold whereClause; infer_instance

end Grammar

end ServiceContainer.Syntax
