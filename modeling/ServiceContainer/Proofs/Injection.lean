import ServiceContainer.Container.Source
import ServiceContainer.Proofs.Findings

/-!
# The types of injected arguments

What is rendered for a parameter has the type of the parameter: the provider for a reference to it, a shared instance
for `Rc`, a clone for everything else; and a constructor is refused for any other reference. Types count up to the paths
before their names, lifetimes and parentheses. The recognition of parameters is more generous than that for a few forms:
a reference to `ServiceProvider` with further bounds, a trait that is named `Rc`, an `Rc` with further arguments, and
references in parentheses. Parameters of none of these forms are regular, and the results are about those.

## Main definitions

* `TypeExpr.IsProvider`, `TypeExpr.IsRcOf`, `TypeExpr.IsOtherReference` — the forms of parameters
* `TypeExpr.IsRegular`, `Declaration.IsRegular` — the forms that are not recognized too generously
* `Argument.Fits` — the argument for a type
* `HasType` — the types of rendered arguments
* `Declaration.Injects`, `Declaration.Refuses` — constructions that fit their parameters, and refused constructors

## Main statements

* `ofParameter_eq_ok`, `ofParameter_eq_error` — one parameter
* `Argument.Fits.hasType` — the argument that is rendered for a parameter has its type
* `registrations_inject` — all registrations of a list of declarations
* `not_registrations_inject` — the bounds beside `ServiceProvider` are overlooked
-/

namespace ServiceContainer

open Syntax

/-! ### Forms of parameters -/

namespace Syntax

/-- The phrases among some trees: the bounds of an object type, or the arguments of a segment, besides lifetimes. -/
def phrasesAmong (parts : List Tree) : List Tree :=
  parts.filter fun part => match part with
    | .phrase _ _ => true
    | _ => false

/-- The segment is the name, with no arguments but lifetimes. -/
def IsPlainSegment (name : String) (segment : List Tree) : Prop :=
  segment = [.ident name] ∨ ∃ inside, segment = [.ident name, .phrase .angle inside] ∧ phrasesAmong inside = []

/-- The bound is a trait of the name, by any path. -/
def NamesTrait (name : String) (bound : Tree) : Prop :=
  ∃ path segment, boundPath? bound = some path ∧ lastSegment? path = some segment ∧ word? segment = some name

/-- The bound is a trait of the name, by any path, without a question mark and without arguments. -/
def IsPlainBound (name : String) (bound : Tree) : Prop :=
  ∃ path segment, boundPath? bound = some path ∧ atOperator "?" path = false ∧ lastSegment? path = some segment ∧
    IsPlainSegment name segment

end Syntax

namespace TypeExpr

/-- The type is `&dyn ServiceProvider`: a shared reference to the object type of this trait alone. -/
def IsProvider (t : TypeExpr) : Prop :=
  ∃ parts referred bounds bound, t.tree.stripParens = .phrase .reference parts ∧ .ident "mut" ∉ parts ∧
    parts.getLast? = some referred ∧ referred.stripParens = .phrase .object bounds ∧ phrasesAmong bounds = [bound] ∧
    IsPlainBound "ServiceProvider" bound

/-- The type is the path `Rc` with the key as its only argument. -/
def IsRcOf (t key : TypeExpr) : Prop :=
  ∃ path inside, t.tree.stripParens = .phrase .typePath path ∧
    Syntax.lastSegment? path = some [.ident "Rc", .phrase .angle inside] ∧ phrasesAmong inside = [key.tree]

/-- The type is a reference. -/
def IsReference (t : TypeExpr) : Prop := ∃ parts, t.tree.stripParens = .phrase .reference parts

/-- The type is a reference, but not the one to the provider. -/
def IsOtherReference (t : TypeExpr) : Prop := t.IsReference ∧ ¬ t.IsProvider

/-- The type has none of the forms that are recognized as something else. -/
structure IsRegular (t : TypeExpr) : Prop where
  /-- A reference stands in no parentheses. -/
  bare : ∀ parts, t.tree.stripParens = .phrase .reference parts → t.tree = .phrase .reference parts
  /-- An object type that it refers to stands in one pair of parentheses at most. -/
  referred : ∀ parts referred bounds, t.tree = .phrase .reference parts → parts.getLast? = some referred →
    referred.stripParens = .phrase .object bounds → stripOneParen referred = .phrase .object bounds
  /-- An object type that it refers to has no bounds, marks and arguments besides `ServiceProvider`. -/
  alone : ∀ parts referred bounds bound, t.tree = .phrase .reference parts → .ident "mut" ∉ parts →
    parts.getLast? = some referred → referred.stripParens = .phrase .object bounds → bound ∈ bounds →
    NamesTrait "ServiceProvider" bound → phrasesAmong bounds = [bound] ∧ IsPlainBound "ServiceProvider" bound
  /-- No trait is named `Rc`. -/
  object : ∀ bounds, t.tree.stripParens = .phrase .object bounds → t.simpleName? ≠ some "Rc"
  /-- The type `Rc` has no arguments but types and lifetimes. -/
  arguments : ∀ path inside c parts, t.tree.stripParens = .phrase .typePath path →
    Syntax.lastSegment? path = some [.ident "Rc", .phrase .angle inside] → .phrase c parts ∈ inside → c.isType = true

end TypeExpr

/-! ### Arguments and their types -/

/-- The argument is the one for a type: the provider for `&dyn ServiceProvider`, a shared instance for `Rc`, a clone for
what is neither a reference nor such an `Rc`. -/
inductive Argument.Fits : Argument → TypeExpr → Prop where
  | provider {t : TypeExpr} (provider : t.IsProvider) : Fits .provider t
  | shared {key t : TypeExpr} (shared : t.IsRcOf key) : Fits (.shared key) t
  | cloned {t : TypeExpr} (value : ¬ t.IsReference) (unshared : ∀ key, ¬ t.IsRcOf key) : Fits (.cloned t) t

/-- The types of the expressions that are rendered for arguments. The provider that makes an instance is `self`; a
request for a key, after `?`, is a shared instance of the key; and a clone of what is shared has the type of the key. -/
inductive HasType : List Tree → TypeExpr → Prop where
  | provider {t : TypeExpr} (provider : t.IsProvider) : HasType (words "self") t
  | request {key t : TypeExpr} (shared : t.IsRcOf key) : HasType (requestTrees key) t
  | clone (key : TypeExpr) :
    HasType (words ":: std :: clone :: Clone :: clone" ++ parens (words "& *" ++ requestTrees key)) key

section

variable {a : Argument} {t key : TypeExpr}

theorem TypeExpr.IsProvider.isReference (h : t.IsProvider) : t.IsReference := by
  obtain ⟨parts, _, _, _, htree, _⟩ := h
  exact ⟨parts, htree⟩

theorem TypeExpr.IsRcOf.not_isReference (h : t.IsRcOf key) : ¬ t.IsReference := by
  obtain ⟨path, inside, hpath, _⟩ := h
  rintro ⟨parts, htree⟩
  exact nomatch hpath.symm.trans htree

theorem TypeExpr.IsRcOf.unique {key' : TypeExpr} (h : t.IsRcOf key) (h' : t.IsRcOf key') : key' = key := by
  obtain ⟨path, inside, hpath, hlast, hkey⟩ := h
  obtain ⟨path', inside', hpath', hlast', hkey'⟩ := h'
  cases hpath.symm.trans hpath'
  cases hlast.symm.trans hlast'
  exact congrArg TypeExpr.mk (List.head_eq_of_cons_eq (hkey'.symm.trans hkey))

/-! One argument at most fits a type, and none fits another reference. -/

theorem TypeExpr.IsProvider.fits_iff (h : t.IsProvider) : a.Fits t ↔ a = .provider := by
  constructor
  · rintro (_ | hrc | ⟨hvalue, -⟩)
    · rfl
    · exact absurd h.isReference hrc.not_isReference
    · exact absurd h.isReference hvalue
  · rintro rfl
    exact .provider h

theorem TypeExpr.IsOtherReference.not_fits (h : t.IsOtherReference) : ¬ a.Fits t := by
  rintro (hprovider | hrc | ⟨hvalue, -⟩)
  · exact h.2 hprovider
  · exact hrc.not_isReference h.1
  · exact hvalue h.1

theorem TypeExpr.IsRcOf.fits_iff (h : t.IsRcOf key) : a.Fits t ↔ a = .shared key := by
  constructor
  · rintro (hprovider | hrc | ⟨-, hunshared⟩)
    · exact absurd hprovider.isReference h.not_isReference
    · rw [h.unique hrc]
    · exact absurd h (hunshared key)
  · rintro rfl
    exact .shared h

theorem Argument.fits_iff_of_value (hvalue : ¬ t.IsReference) (hunshared : ∀ key, ¬ t.IsRcOf key) :
    a.Fits t ↔ a = .cloned t := by
  constructor
  · rintro (hprovider | hrc | _)
    · exact absurd hprovider.isReference hvalue
    · exact absurd hrc (hunshared _)
    · rfl
  · rintro rfl
    exact .cloned hvalue hunshared

/-- An argument that fits a type is rendered as an expression of this type. -/
theorem Argument.Fits.hasType (h : a.Fits t) : HasType a.trees t := by
  cases h with
  | provider h => exact .provider h
  | shared h => exact .request h
  | cloned => exact .clone t

end

/-! ### Constructions that fit -/

namespace Declaration

variable (d : Declaration)

/-- The parameters of the constructor and of the factory methods are regular. -/
structure IsRegular : Prop where
  constructor : ∀ c, d.constructor = some c → ∀ p ∈ c.parameters, (p.type.replaceSelf d.type).IsRegular
  factories : ∀ m ∈ factoryMethods d, ∀ p ∈ m.parameters, p.type.IsRegular

/-- The construction gets what it is declared with: a factory gets the provider, a constructor gets an argument of the
right type for each of its parameters in order. -/
inductive Injects : Construction → Prop where
  | factory {m : Method} {p : Parameter} {returns : TypeExpr} (declared : m ∈ d.methods) (static : m.isStatic = true)
    (marked : m.isFactory = true) (parameter : m.parameters = [p]) (provider : p.type.IsProvider)
    (result : m.returns = some returns) (self : (returns.replaceSelf d.type).display = d.type.display) :
    Injects (.factory m.name)
  | constructor {c : Constructor} {arguments : List Argument} (declared : d.constructor = some c)
    (typed : List.Forall₂ (fun p a =>
      a.Fits (p.type.replaceSelf d.type) ∧ HasType a.trees (p.type.replaceSelf d.type)) c.parameters arguments) :
    Injects (.constructor c.name arguments)
  | unitLiteral (undeclared : d.constructor = none) : Injects .unitLiteral
  | default (undeclared : d.constructor = none) : Injects .default

/-- The error that a parameter of the constructor cannot be supplied. -/
def parameterError (p : Parameter) : GenerationError :=
  .invalidDeclaration (d.type.display ++ " 的构造函数参数 `" ++ p.name ++ ": "
    ++ (p.type.replaceSelf d.type).display ++ "` 无法注入：只支持 `Rc<T>`、可克隆的值类型或 `&dyn ServiceProvider`")

/-- The constructor that is used has a parameter that is a reference of another form, and the error is about the first
of them. -/
structure Refuses (e : GenerationError) : Prop where
  noFactory : d.HasNoFactory
  parameter : ∃ c, d.constructor = some c ∧
    FirstFailing (fun p => ¬ (p.type.replaceSelf d.type).IsOtherReference)
      (fun p => (p.type.replaceSelf d.type).IsOtherReference ∧ e = d.parameterError p) c.parameters

end Declaration

theorem Declaration.Injects.typed {d : Declaration} {name : String} {arguments : List Argument}
    (h : d.Injects (.constructor name arguments)) : ∃ c, d.constructor = some c ∧ List.Forall₂ (fun p a =>
      a.Fits (p.type.replaceSelf d.type) ∧ HasType a.trees (p.type.replaceSelf d.type)) c.parameters arguments := by
  cases h with
  | constructor hdeclared htyped => exact ⟨_, hdeclared, htyped⟩

/-! ### Recognized parameters -/

section

variable {t key : TypeExpr} {bound part : Tree} {name : String}

theorem isProviderBound_iff : isProviderBound bound = true ↔ NamesTrait "ServiceProvider" bound := by
  rw [isProviderBound, beq_iff_eq, Option.bind_eq_some_iff]
  constructor
  · rintro ⟨segment, hsegment, hword⟩
    obtain ⟨path, hpath, hsegment⟩ := Option.bind_eq_some_iff.mp hsegment
    exact ⟨path, segment, hpath, hsegment, hword⟩
  · rintro ⟨path, segment, hpath, hsegment, hword⟩
    exact ⟨segment, Option.bind_eq_some_iff.mpr ⟨path, hpath, hsegment⟩, hword⟩

theorem Syntax.IsPlainBound.namesTrait (h : IsPlainBound name bound) : NamesTrait name bound := by
  obtain ⟨path, segment, hpath, -, hsegment, rfl | ⟨inside, rfl, -⟩⟩ := h
  · exact ⟨path, _, hpath, hsegment, rfl⟩
  · exact ⟨path, _, hpath, hsegment, rfl⟩

theorem atWord_singleton : atWord name [part] = true ↔ part = .ident name := by
  rw [atWord, beq_iff_eq]
  constructor
  · intro h
    obtain ⟨rest, hpart⟩ := word?_eq_some h
    exact List.head_eq_of_cons_eq hpart
  · rintro rfl
    rfl

/-- One pair of parentheses less does not matter where all of them are taken away. -/
theorem stripParens_stripOneParen (x : Tree) : (stripOneParen x).stripParens = x.stripParens := by
  unfold stripOneParen
  split
  next => rw [Tree.stripParens]
  next => rfl

theorem isProviderReference_iff : isProviderReference t = true ↔
    ∃ parts referred bounds bound, t.tree = .phrase .reference parts ∧ .ident "mut" ∉ parts ∧
      parts.getLast? = some referred ∧ stripOneParen referred = .phrase .object bounds ∧ bound ∈ bounds ∧
      NamesTrait "ServiceProvider" bound := by
  unfold isProviderReference
  constructor
  · intro h
    split at h
    next parts htree =>
      rw [Bool.and_eq_true, Bool.not_eq_true', List.any_eq_false] at h
      obtain ⟨hmut, h⟩ := h
      split at h
      next bounds hobject =>
        obtain ⟨referred, hreferred, hobject⟩ := Option.map_eq_some_iff.mp hobject
        obtain ⟨bound, hmem, hbound⟩ := List.any_eq_true.mp h
        refine ⟨parts, referred, bounds, bound, htree, fun hmem => ?_, hreferred, hobject, hmem,
          isProviderBound_iff.mp hbound⟩
        exact hmut _ hmem (atWord_singleton.mpr rfl)
      next => exact nomatch h
    next => exact nomatch h
  · rintro ⟨parts, referred, bounds, bound, htree, hmut, hreferred, hobject, hmem, hbound⟩
    have hany : (parts.any fun part => atWord "mut" [part]) = false := by
      refine List.any_eq_false.mpr fun part hpart hword => ?_
      rw [atWord_singleton] at hword
      exact hmut (hword ▸ hpart)
    have hbounds : bounds.any isProviderBound = true :=
      List.any_eq_true.mpr ⟨bound, hmem, isProviderBound_iff.mpr hbound⟩
    simp only [htree, hany, hreferred, Option.map_some, hobject, hbounds, Bool.not_false, Bool.and_self]

/-- The phrases among the arguments of a segment are types where no other phrases are. -/
theorem phrasesAmong_eq {inside : List Tree}
    (h : ∀ c parts, Tree.phrase c parts ∈ inside → c.isType = true) :
    phrasesAmong inside = (TypeExpr.typesAmong inside).map TypeExpr.tree := by
  induction inside with
  | nil => rfl
  | cons x inside ih =>
    have hrest := ih fun c parts hmem => h c parts (List.mem_cons_of_mem x hmem)
    cases x with
    | token | group => exact hrest
    | phrase c parts =>
      have htype : c.isType = true := h c parts List.mem_cons_self
      simp only [phrasesAmong, TypeExpr.typesAmong, List.filter_cons_of_pos, List.filterMap_cons, htype, if_true,
        List.map_cons] at hrest ⊢
      rw [hrest]

theorem sharedKey?_iff : sharedKey? t = some key ↔
    ∃ inside, t.lastSegment? = some [.ident "Rc", .phrase .angle inside] ∧ TypeExpr.typesAmong inside = [key] := by
  unfold sharedKey? TypeExpr.simpleName? TypeExpr.typeArguments
  constructor
  · intro h
    split at h
    next hname =>
      obtain ⟨segment, hsegment, hword⟩ := Option.bind_eq_some_iff.mp (beq_iff_eq.mp hname)
      obtain ⟨rest, rfl⟩ := word?_eq_some hword
      split at h
      next only harguments =>
        obtain rfl := Option.some.inj h
        split at harguments
        next name inside hlast =>
          obtain ⟨rfl, rfl⟩ := List.cons.inj (Option.some.inj (hsegment.symm.trans hlast))
          exact ⟨inside, hsegment, harguments⟩
        next => exact nomatch harguments
      next => exact nomatch h
    next => exact nomatch h
  · rintro ⟨inside, hsegment, harguments⟩
    simp only [hsegment, harguments, Option.bind_some]
    rfl

namespace TypeExpr.IsRegular

/-- A regular parameter is recognized as the provider when it is `&dyn ServiceProvider`. -/
theorem isProvider_iff (h : t.IsRegular) : isProviderReference t = true ↔ t.IsProvider := by
  rw [isProviderReference_iff]
  constructor
  · rintro ⟨parts, referred, bounds, bound, htree, hmut, hreferred, hobject, hmem, hbound⟩
    -- What is recognized stands in one pair of parentheses at most, but may have further bounds.
    have hstripped : referred.stripParens = .phrase .object bounds := by
      rw [← stripParens_stripOneParen, hobject]
      rfl
    obtain ⟨halone, hplain⟩ := h.alone parts referred bounds bound htree hmut hreferred hstripped hmem hbound
    exact ⟨parts, referred, bounds, bound, by rw [htree]; rfl, hmut, hreferred, hstripped, halone, hplain⟩
  · rintro ⟨parts, referred, bounds, bound, htree, hmut, hreferred, hobject, halone, hplain⟩
    have htree := h.bare parts htree
    have hone := h.referred parts referred bounds htree hreferred hobject
    have hmem : bound ∈ phrasesAmong bounds := by
      rw [halone]
      exact List.mem_singleton_self bound
    exact ⟨parts, referred, bounds, bound, htree, hmut, hreferred, hone, List.mem_of_mem_filter hmem, hplain.namesTrait⟩

theorem isReference_iff (h : t.IsRegular) : isReference t = true ↔ t.IsReference := by
  rw [isReference, beq_iff_eq, TypeExpr.category?]
  constructor
  · intro hcategory
    split at hcategory
    next c parts htree =>
      obtain rfl := Option.some.inj hcategory
      refine ⟨parts, ?_⟩
      rw [htree]
      rfl
    next => exact nomatch hcategory
  · rintro ⟨parts, htree⟩
    rw [h.bare parts htree]

/-- A regular parameter is recognized as shared when it is `Rc` with the key. -/
theorem sharedKey?_eq_some (h : t.IsRegular) : sharedKey? t = some key ↔ t.IsRcOf key := by
  rw [sharedKey?_iff]
  constructor
  · rintro ⟨inside, hsegment, harguments⟩
    have hname : t.simpleName? = some "Rc" := by
      rw [TypeExpr.simpleName?, hsegment]
      rfl
    unfold TypeExpr.lastSegment? at hsegment
    -- The last segment is that of a path, since no trait is named `Rc`.
    split at hsegment
    next path htree =>
      refine ⟨path, inside, htree, hsegment, ?_⟩
      rw [phrasesAmong_eq fun c parts => h.arguments path inside c parts htree hsegment, harguments]
      rfl
    next bounds htree => exact absurd hname (h.object bounds htree)
    next => exact nomatch hsegment
  · rintro ⟨path, inside, htree, hsegment, hphrases⟩
    refine ⟨inside, ?_, ?_⟩
    · rw [TypeExpr.lastSegment?, htree]
      exact hsegment
    · rw [phrasesAmong_eq fun c parts => h.arguments path inside c parts htree hsegment] at hphrases
      obtain ⟨only, hargument, honly⟩ := List.map_eq_singleton_iff.mp hphrases
      rw [hargument, show only = key from congrArg TypeExpr.mk honly]

end TypeExpr.IsRegular

end

/-! ### One parameter -/

section

variable {d : Declaration} {p : Parameter}

/-- A regular parameter is supplied with the argument that fits its type. -/
theorem ofParameter_eq_ok (h : (p.type.replaceSelf d.type).IsRegular) {a : Argument} :
    Argument.ofParameter d p = .ok a ↔ a.Fits (p.type.replaceSelf d.type) := by
  unfold Argument.ofParameter
  generalize p.type.replaceSelf d.type = t at h ⊢
  -- The cases are those of the function: the provider, another reference, a shared instance, a clone.
  by_cases hprovider : t.IsProvider
  · rw [if_pos (h.isProvider_iff.mpr hprovider), hprovider.fits_iff, Except.ok.injEq, eq_comm]
  rw [if_neg (mt h.isProvider_iff.mp hprovider)]
  by_cases hreference : t.IsReference
  · rw [if_pos (h.isReference_iff.mpr hreference)]
    exact iff_of_false (nomatch ·) (TypeExpr.IsOtherReference.not_fits ⟨hreference, hprovider⟩)
  rw [if_neg (mt h.isReference_iff.mp hreference)]
  cases hkey : sharedKey? t with
  | some key => rw [(h.sharedKey?_eq_some.mp hkey).fits_iff, Except.ok.injEq, eq_comm]
  | none =>
    have hunshared (key : TypeExpr) : ¬ t.IsRcOf key := fun hrc =>
      nomatch hkey.symm.trans (h.sharedKey?_eq_some.mpr hrc)
    rw [Argument.fits_iff_of_value hreference hunshared, Except.ok.injEq, eq_comm]

/-- A regular parameter is refused when it is a reference of another form. -/
theorem ofParameter_eq_error (h : (p.type.replaceSelf d.type).IsRegular) {e : GenerationError} :
    Argument.ofParameter d p = .error e ↔
      (p.type.replaceSelf d.type).IsOtherReference ∧ e = d.parameterError p := by
  rw [TypeExpr.IsOtherReference, ← h.isProvider_iff, ← h.isReference_iff, Argument.ofParameter,
    Declaration.parameterError]
  split
  next hprovider => simp [hprovider]
  next hprovider =>
    split
    next hreference => simp [hprovider, hreference, eq_comm]
    next hreference => split <;> simp [hreference]

/-- A regular parameter is either supplied or refused. -/
theorem exists_ofParameter_eq_ok (h : (p.type.replaceSelf d.type).IsRegular) :
    (∃ a, Argument.ofParameter d p = .ok a) ↔ ¬ (p.type.replaceSelf d.type).IsOtherReference := by
  constructor
  · rintro ⟨a, ha⟩ hother
    exact nomatch ha.symm.trans ((ofParameter_eq_error h).mpr ⟨hother, rfl⟩)
  · intro hnot
    cases hp : Argument.ofParameter d p with
    | ok a => exact ⟨a, rfl⟩
    | error e => exact absurd ((ofParameter_eq_error h).mp hp).1 hnot

end

/-! ### One declaration -/

namespace Declaration.IsRegular

variable {d : Declaration}

/-- A construction of a regular declaration gets what it is declared with. -/
theorem injects (h : d.IsRegular) {k : Construction} (hk : d.ConstructedBy k) : d.Injects k := by
  cases hk with
  | @factory before after m hmethods hm _ =>
    obtain ⟨p, hp, hprovider⟩ := hm.parameter
    obtain ⟨returns, hreturns, hself⟩ := hm.result
    have hmem : m ∈ d.methods := by simp [hmethods]
    have hfactory : m ∈ factoryMethods d := by
      simp [factoryMethods, Declaration.staticMethods, hmem, hm.isStatic, hm.marked]
    have hregular : p.type.IsRegular := h.factories m hfactory p (by simp [hp])
    exact .factory hmem hm.isStatic hm.marked hp (hregular.isProvider_iff.mp hprovider) hreturns hself
  | @constructor c arguments _ hdeclared hsupplied =>
    have hregular := List.forall₂_and_left _ _ |>.mpr ⟨h.constructor c hdeclared, hsupplied⟩
    refine .constructor hdeclared (hregular.imp fun p a hpa => ?_)
    obtain ⟨hp, ha⟩ := hpa
    have hfits := (ofParameter_eq_ok hp).mp ha
    exact ⟨hfits, hfits.hasType⟩
  | unitLiteral _ hundeclared _ => exact .unitLiteral hundeclared
  | default _ hundeclared _ => exact .default hundeclared

/-- The constructor of a regular declaration is refused for references of another form. -/
theorem refuses_iff (h : d.IsRegular) {e : GenerationError} : d.CannotSupply e ↔ d.Refuses e := by
  have hfirst {c : Constructor} (hdeclared : d.constructor = some c) :
      FirstFailing (fun p => ∃ a, Argument.ofParameter d p = .ok a) (fun p => Argument.ofParameter d p = .error e)
        c.parameters ↔
      FirstFailing (fun p => ¬ (p.type.replaceSelf d.type).IsOtherReference)
        (fun p => (p.type.replaceSelf d.type).IsOtherReference ∧ e = d.parameterError p) c.parameters :=
    firstFailing_congr (fun p hp => exists_ofParameter_eq_ok (h.constructor c hdeclared p hp))
      fun p hp => ofParameter_eq_error (h.constructor c hdeclared p hp)
  constructor
  · rintro ⟨hnone, c, hdeclared, hfails⟩
    exact ⟨hnone, c, hdeclared, (hfirst hdeclared).mp hfails⟩
  · rintro ⟨hnone, c, hdeclared, hfails⟩
    exact ⟨hnone, c, hdeclared, (hfirst hdeclared).mpr hfails⟩

end Declaration.IsRegular

/-! ### Regular types and declarations -/

/-- A path is regular unless it is `Rc` with an argument that is no type. -/
theorem isRegular_path {path : List Tree} (h : ∀ inside c parts,
    lastSegment? path = some [.ident "Rc", .phrase .angle inside] → .phrase c parts ∈ inside → c.isType = true) :
    (TypeExpr.mk (.phrase .typePath path)).IsRegular where
  bare _ htree := nomatch htree
  referred _ _ _ htree := nomatch htree
  alone _ _ _ _ htree := nomatch htree
  object _ htree := nomatch htree
  arguments path' inside c parts htree hlast := by
    cases htree
    exact h inside c parts hlast

theorem isRegular_ofName (name : String) : (TypeExpr.ofName name).IsRegular :=
  isRegular_path fun _ _ _ hlast _ => nomatch hlast

/-- A reference to a path is regular. -/
theorem isRegular_referenceToPath (path : List Tree) :
    (TypeExpr.mk (.phrase .reference (operator "&" ++ [.phrase .typePath path]))).IsRegular where
  bare _ htree := htree
  referred _ _ _ htree hreferred hobject := by
    cases htree
    cases hreferred
    exact nomatch hobject
  alone _ _ _ _ htree _ hreferred hobject := by
    cases htree
    cases hreferred
    exact nomatch hobject
  object _ htree := nomatch htree
  arguments _ _ _ _ htree := nomatch htree

theorem Sample.isRegular_providerReference : Sample.providerReference.IsRegular where
  bare _ htree := htree
  referred _ _ _ htree hreferred hobject := by
    cases htree
    cases hreferred
    exact hobject
  alone _ _ _ bound htree _ hreferred hobject hmem hbound := by
    cases htree
    cases hreferred
    cases hobject
    obtain ⟨path, segment, hpath, hsegment, -⟩ := hbound
    rcases List.mem_pair.mp hmem with rfl | rfl
    · exact nomatch hpath
    · exact ⟨rfl, _, _, rfl, rfl, rfl, .inl rfl⟩
  object _ htree := nomatch htree
  arguments _ _ _ _ htree := nomatch htree

/-- The type `Rc<Clock>`. -/
def Sample.sharedClock : TypeExpr :=
  ⟨.phrase .typePath [.phrase .segment [.ident "Rc",
    .phrase .angle (Syntax.operator "<" ++ (TypeExpr.ofName "Clock").tree :: Syntax.operator ">")]]⟩

theorem Sample.isRegular_sharedClock : Sample.sharedClock.IsRegular := by
  refine isRegular_path fun inside c parts hlast hmem => ?_
  cases hlast
  have hargument : Tree.phrase c parts = (TypeExpr.ofName "Clock").tree := by simpa [operator, marks] using hmem
  cases hargument
  rfl

/-- A constructor that asks for a shared instance, a clone and the provider, the factory of what is cloned, and a
shared type without either. -/
def Sample.study : List Declaration :=
  [declared "Clock" ["singleton"],
   { declared "Door" ["transient"] with
     methods := [⟨"wide", true, true, [⟨"provider", providerReference⟩], some (.ofName "Self")⟩] },
   { declared "Session" ["scoped"] with
     constructor := some ⟨"new",
       [⟨"clock", sharedClock⟩, ⟨"door", .ofName "Door"⟩, ⟨"provider", providerReference⟩]⟩ }]

theorem Sample.isRegular_study : ∀ d ∈ Sample.study, d.IsRegular := by
  intro d hd
  simp only [Sample.study, List.mem_cons, List.not_mem_nil, or_false] at hd
  rcases hd with rfl | rfl | rfl
  · exact ⟨fun c hc => (nomatch hc), fun m hm => nomatch hm⟩
  · refine ⟨fun c hc => (nomatch hc), fun m hm p hp => ?_⟩
    obtain rfl := List.mem_singleton.mp hm
    obtain rfl := List.mem_singleton.mp hp
    exact Sample.isRegular_providerReference
  · refine ⟨fun c hc p hp => ?_, fun m hm => nomatch hm⟩
    cases hc
    simp only [List.mem_cons, List.not_mem_nil, or_false] at hp
    rcases hp with rfl | rfl | rfl
    · exact Sample.isRegular_sharedClock
    · exact isRegular_ofName "Door"
    · exact Sample.isRegular_providerReference

/-- A constructor that asks for the provider and for two references. -/
def Sample.window : Declaration :=
  { declared "Window" ["transient"] with
    constructor := some ⟨"new",
      [⟨"provider", providerReference⟩,
       ⟨"clock", ⟨.phrase .reference (Syntax.operator "&" ++ [(TypeExpr.ofName "Clock").tree])⟩⟩,
       ⟨"door", ⟨.phrase .reference (Syntax.operator "&" ++ [(TypeExpr.ofName "Door").tree])⟩⟩]⟩ }

theorem Sample.isRegular_window : Sample.window.IsRegular := by
  refine ⟨fun c hc p hp => ?_, fun m hm => nomatch hm⟩
  cases hc
  simp only [List.mem_cons, List.not_mem_nil, or_false] at hp
  rcases hp with rfl | rfl | rfl
  · exact Sample.isRegular_providerReference
  · exact isRegular_referenceToPath _
  · exact isRegular_referenceToPath _

/-! ### All declarations -/

/-- What is registered for regular declarations gets what it is declared with, and their constructors are refused for
references of another form, with the error about the first of them. -/
theorem registrations_inject (ds : List Declaration) (strict : Bool) :
    (∀ rs, (registrations strict (candidates ds)).outcome = .ok rs →
      List.Forall₂ (fun c r => r.implementation = c.declaration.type ∧
        (c.declaration.IsRegular → c.declaration.Injects r.construction)) (candidates ds) rs) ∧
    ∀ d : Declaration, d.IsRegular → ∀ e, (Construction.ofDeclaration d).outcome = .error e ↔ d.Refuses e := by
  constructor
  · intro rs hrs
    refine (registrations_eq_ok.mp hrs).imp fun c r hr => ?_
    exact ⟨hr.implementation, fun hregular => hregular.injects hr.construction⟩
  · intro d hregular e
    rw [construction_eq_error, hregular.refuses_iff]

theorem registrations_inject_study :
    (∃ rs, (registrations false (candidates Sample.study)).outcome = .ok rs ∧
      List.Forall₂ (fun c r => r.implementation = c.declaration.type ∧ c.declaration.Injects r.construction)
        (candidates Sample.study) rs) ∧
    Sample.window.Refuses (Sample.window.parameterError
      ⟨"clock", ⟨.phrase .reference (operator "&" ++ [(TypeExpr.ofName "Clock").tree])⟩⟩) := by
  constructor
  · obtain ⟨rs, hrs⟩ : ∃ rs, (registrations false (candidates Sample.study)).outcome = .ok rs := ⟨_, rfl⟩
    have hregular : ∀ c ∈ candidates Sample.study, c.declaration.IsRegular := fun c hc =>
      Sample.isRegular_study _ (declaration_mem_of_mem_candidates hc)
    have hinject := (registrations_inject Sample.study false).1 rs hrs
    refine ⟨rs, hrs, (List.forall₂_and_left _ _ |>.mpr ⟨hregular, hinject⟩).imp fun c r ⟨hc, himplementation, hr⟩ => ?_⟩
    exact ⟨himplementation, hr hc⟩
  · exact ((registrations_inject Sample.study false).2 Sample.window Sample.isRegular_window _).mp rfl

/-- The type `&(dyn ServiceProvider + Send)`. -/
def Sample.sendableReference : TypeExpr :=
  ⟨.phrase .reference (Syntax.operator "&" ++ [.phrase .parens [.group .paren [.phrase .object
    ([.ident "dyn", .phrase .traitBound [.phrase .segment [.ident "ServiceProvider"]]] ++ Syntax.operator "+"
      ++ [.phrase .traitBound [.phrase .segment [.ident "Send"]]])]]])⟩

/-- A constructor that asks for the provider with another bound. -/
def Sample.gate : Declaration :=
  { declared "Gate" ["singleton"] with constructor := some ⟨"new", [⟨"provider", sendableReference⟩]⟩ }

/-- A reference to an object type with bounds besides `ServiceProvider` is not the provider. -/
theorem Sample.not_isProvider_sendableReference : ¬ Sample.sendableReference.IsProvider := by
  rintro ⟨parts, referred, bounds, bound, htree, -, hreferred, hobject, halone, -⟩
  cases htree
  cases hreferred
  cases hobject
  exact nomatch halone

/-- The bounds besides `ServiceProvider` are overlooked: the provider is injected for a reference to an object type that
it may not have. -/
theorem not_registrations_inject : ¬ ∀ (ds : List Declaration) (strict : Bool) (rs : List Registration),
    (registrations strict (candidates ds)).outcome = .ok rs →
      List.Forall₂ (fun c r => c.declaration.Injects r.construction) (candidates ds) rs := by
  intro h
  -- The gate is registered with the provider for a parameter that is not the provider.
  have hinject := h [Sample.gate] false _ rfl
  obtain ⟨hgate, -⟩ := List.forall₂_cons.mp hinject
  obtain ⟨c, hdeclared, htyped⟩ := hgate.typed
  cases hdeclared
  obtain ⟨⟨hfits, -⟩, -⟩ := List.forall₂_cons.mp htyped
  cases hfits with
  | provider hprovider => exact Sample.not_isProvider_sendableReference hprovider

end ServiceContainer
