import ServiceContainer.Proofs.ItemNames
import ServiceContainer.Registration

/-!
# Names of keys

A type that is a path ends with a segment that begins with a word, wherever it was read. So a type that can be a key has
a name, and what is named after it: the check of keys and the naming of services agree.

## Main definitions

* `EndsNamed` — a path whose last segment begins with a word
* `TypeExpr.Written` — a type that is a name or was read

## Main statements

* `Grammar.yields_type` — the paths among the types that are read
* `exists_serviceIdentifier` — every written type that can be a key has an identifier
-/

namespace ServiceContainer

namespace Syntax

/-- The path ends with a segment that begins with a word. -/
def EndsNamed (path : List Tree) : Prop :=
  ∃ front text arguments, path = front ++ [.phrase .segment (.token (.ident text) :: arguments)]

/-- If the tree is the type of a path, that path ends with a name. -/
def Tree.HasPathName (t : Tree) : Prop := ∀ parts, t = .phrase .typePath parts → EndsNamed parts

/-- The tree is a segment that begins with a word. -/
def Tree.IsNamedSegment (t : Tree) : Prop := ∃ text arguments, t = .phrase .segment (.token (.ident text) :: arguments)

theorem EndsNamed.append {path : List Tree} (h : EndsNamed path) (front : List Tree) : EndsNamed (front ++ path) := by
  obtain ⟨before, text, arguments, rfl⟩ := h
  exact ⟨front ++ before, text, arguments, (List.append_assoc _ _ _).symm⟩

theorem Tree.IsNamedSegment.endsNamed {t : Tree} (h : t.IsNamedSegment) : EndsNamed [t] := by
  obtain ⟨text, arguments, rfl⟩ := h
  exact ⟨[], text, arguments, rfl⟩

/-- A phrase of another category is no path. -/
theorem Tree.hasPathName_of_ne {c : Category} {parts : List Tree} (h : c ≠ .typePath) :
    (Tree.phrase c parts).HasPathName :=
  fun _ heq => absurd (Tree.phrase.inj heq).1 h

namespace Parser

theorem one_of_word {front rest : List Tree} {t : Tree} (hword : (word? front).isSome = true)
    (h : one front = some (t, rest)) : ∃ text, t = .token (.ident text) := by
  obtain ⟨text, htext⟩ := Option.isSome_iff_exists.mp hword
  obtain ⟨more, rfl⟩ := word?_eq_some htext
  exact ⟨text, (List.cons.inj (one_eq_some h)).1.symm⟩

theorem yields_anyWord : anyWord.Yields fun ts => ∃ text, ts = [.token (.ident text)] := by
  intro front ts rest hread
  obtain ⟨_, _, hget, htest⟩ := bind_eq_some.mp hread
  obtain ⟨rfl, rfl⟩ := get_eq_some.mp hget
  split at htest
  next hword =>
    obtain ⟨t, _, hone, hpure⟩ := bind_eq_some.mp htest
    obtain ⟨rfl, rfl⟩ := pure_eq_some.mp hpure
    obtain ⟨text, rfl⟩ := one_of_word hword hone
    exact ⟨text, rfl⟩
  next => cases htest

theorem yields_ident : ident.Yields fun ts => ∃ text, ts = [.token (.ident text)] := by
  intro front ts rest hread
  obtain ⟨text, rfl, -, -⟩ := ident_eq_some.mp hread
  exact ⟨text, rfl⟩

end Parser

namespace Grammar

open Syntax.Parser

variable {g : Grammar}

theorem yields_segmentOf (inExpr : Bool) : (g.segmentOf inExpr).Yields Tree.IsNamedSegment := by
  refine Yields.after fun trees => Yields.ite (fun _ => ?_) fun _ => ?_
  · refine Yields.bind yields_anyWord ?_
    rintro _ ⟨text, rfl⟩
    exact Yields.pure ⟨text, [], rfl⟩
  -- The word is read first, and what follows it are arguments.
  · have hend : ∀ x : List Tree, (∃ text, x = [.token (.ident text)]) → Yields (do
        let next ← get
        if (!inExpr && atOperator "<" next && !atAnyOperator ["<=", "<<="] next)
            || (atOperator "::" next && atOperator "<" (next.drop 2)) then
          return .phrase .segment (x ++ [← g.angleArguments])
        else return .phrase .segment x) Tree.IsNamedSegment := by
      rintro _ ⟨text, rfl⟩
      refine Yields.after fun next => Yields.ite (fun _ => Yields.after fun arguments => ?_) fun _ => ?_
      · exact Yields.pure ⟨text, [arguments], rfl⟩
      · exact Yields.pure ⟨text, [], rfl⟩
    exact Yields.ite (fun _ => Yields.bind yields_anyWord hend) fun _ => Yields.bind yields_ident hend

theorem yields_objectType (plus : Bool) : (g.objectType plus).Yields Tree.HasPathName := by
  refine Yields.after fun lead => Yields.after fun bounds => Yields.ite (fun _ => ?_) fun _ => Yields.failure
  exact Yields.pure (Tree.hasPathName_of_ne nofun)

theorem yields_functionType (binder : List Tree) : (g.functionType binder).Yields Tree.HasPathName := by
  refine Yields.after fun lead => Yields.after fun parameters => Yields.after fun result => ?_
  exact Yields.pure (Tree.hasPathName_of_ne nofun)

/-- Parentheses around one type hold it back; what they make whole is no path. -/
theorem yields_parenthesized : g.parenthesized.Yields fun r => ∀ t, r = .whole t → t.HasPathName := by
  have hwhole : ∀ {c : Category} {parts : List Tree}, c ≠ .typePath →
      Yields (pure (.whole (.phrase c parts))) fun r => ∀ t, r = Parenthesized.whole t → t.HasPathName :=
    fun hc => Yields.pure fun t ht => by
      cases ht
      exact Tree.hasPathName_of_ne hc
  refine Yields.after fun trees => Yields.ite (fun _ => hwhole nofun) fun _ => ?_
  refine Yields.ite (fun _ => Yields.after fun object => hwhole nofun) fun _ => Yields.ite (fun _ => ?_) fun _ => ?_
  · refine Yields.after fun bound => ?_
    cases bound with
    | some parts => exact Yields.pure nofun
    | none => exact Yields.failure
  · refine Yields.after fun first => Yields.after fun next => Yields.ite (fun _ => ?_) fun _ => Yields.pure nofun
    exact Yields.after fun comma => Yields.after fun more => hwhole nofun

theorem yields_parenType (plus : Bool) : (g.parenType plus).Yields Tree.HasPathName := by
  refine Yields.bind (yields_parenthesized.within .paren) fun inside hinside => ?_
  cases inside with
  | whole t => exact Yields.pure (hinside t rfl)
  | bound b => exact Yields.after fun next => Yields.after fun more => Yields.pure (Tree.hasPathName_of_ne nofun)
  | single t =>
    have hparens : Yields (pure (.phrase .parens [.group .paren [t]])) Tree.HasPathName :=
      Yields.pure (Tree.hasPathName_of_ne nofun)
    refine Yields.after fun next => Yields.ite (fun _ => ?_) fun _ => hparens
    cases parenthesizedBound? t with
    | some bound => exact Yields.after fun next => Yields.after fun more => Yields.pure (Tree.hasPathName_of_ne nofun)
    | none => exact hparens

section

variable (hsegment : ∀ inExpr, (g.segment inExpr).Yields Tree.IsNamedSegment)

include hsegment

theorem yields_furtherSegments (inExpr : Bool) (fuel : Nat) :
    (g.furtherSegments inExpr fuel).Yields fun path => path = [] ∨ EndsNamed path := by
  induction fuel with
  | zero => exact Yields.failure
  | succ fuel ih =>
    refine Yields.after fun trees => Yields.ite (fun _ => Yields.after fun colons => ?_) fun _ => Yields.pure (.inl rfl)
    refine Yields.bind (hsegment inExpr) fun x hx => Yields.bind ih fun more hmore => Yields.pure (.inr ?_)
    rcases hmore with rfl | hmore
    · exact hx.endsNamed.append colons
    · exact (hmore.append [x]).append colons

theorem yields_path (inExpr : Bool) : (g.path inExpr).Yields EndsNamed := by
  refine Yields.after fun front => Yields.bind (hsegment inExpr) fun x hx => Yields.after fun trees => ?_
  refine Yields.bind (yields_furtherSegments hsegment inExpr _) fun more hmore => Yields.pure ?_
  rcases hmore with rfl | hmore
  · exact hx.endsNamed.append front
  · exact (hmore.append [x]).append front

theorem yields_pathType (binder : List Tree) (plus : Bool) : (g.pathType binder plus).Yields Tree.HasPathName := by
  have hqualified : (g.qualifiedPath false).Yields fun r => r.1 = false → EndsNamed r.2 := by
    refine Yields.after fun trees => Yields.ite (fun _ => ?_) fun _ => ?_
    · refine Yields.after fun front => Yields.after fun self => Yields.after fun next => Yields.choose fun trait => ?_
      exact Yields.after fun close => Yields.after fun segments => Yields.pure nofun
    · exact Yields.bind (yields_path hsegment false) fun path hpath => Yields.pure fun _ => hpath
  refine Yields.bind hqualified ?_
  rintro ⟨qualified, parts⟩ hparts
  refine Yields.ite (fun _ => Yields.pure (Tree.hasPathName_of_ne nofun)) fun hplain => Yields.after fun next => ?_
  refine Yields.ite (fun _ => ?_) fun _ => Yields.ite (fun _ => ?_) fun _ => ?_
  · exact Yields.after fun sign => Yields.after fun group => Yields.pure (Tree.hasPathName_of_ne nofun)
  · exact Yields.choose fun more => Yields.pure (Tree.hasPathName_of_ne nofun)
  · refine Yields.pure fun path hpath => ?_
    obtain rfl := (Tree.phrase.inj hpath).2
    exact hparts (by simpa using hplain)

theorem yields_typeOf (plus : Bool) : (g.typeOf plus).Yields Tree.HasPathName := by
  have hother : ∀ {c : Category} {parts : List Tree}, c ≠ .typePath →
      Yields (pure (.phrase c parts)) Tree.HasPathName := fun hc => Yields.pure (Tree.hasPathName_of_ne hc)
  -- Every case but that of a path makes a phrase of another category, or is a type that was treated before.
  refine Yields.after fun front => Yields.choose fun binder => Yields.after fun trees => ?_
  refine Yields.ite (fun _ => Yields.bind (P := fun _ => False) Yields.failure fun _ h => h.elim) fun _ => ?_
  refine Yields.ite (fun _ => ?_) fun _ => ?_
  · exact Yields.after fun call => Yields.after fun written => hother nofun
  refine Yields.ite (fun _ => yields_parenType plus) fun _ => ?_
  refine Yields.ite (fun _ => yields_functionType binder) fun _ => ?_
  refine Yields.ite (fun _ => yields_pathType hsegment binder plus) fun _ => ?_
  refine Yields.ite (fun _ => Yields.ite (fun _ => ?_) fun _ => yields_objectType plus) fun _ => ?_
  · refine Yields.after fun star => Yields.after fun bounds => Yields.ite (fun _ => ?_) fun _ => Yields.failure
    exact Yields.after fun written => hother nofun
  refine Yields.ite (fun _ => Yields.within (Yields.after fun element => Yields.after fun next => ?_) _) fun _ => ?_
  · refine Yields.ite (fun _ => ?_) fun _ => hother nofun
    exact Yields.after fun semi => Yields.after fun length => hother nofun
  refine Yields.ite (fun _ => Yields.after fun star => Yields.after fun next => ?_) fun _ => ?_
  · exact Yields.choose fun access => Yields.after fun pointed => hother nofun
  refine Yields.ite (fun _ => Yields.after fun sign => Yields.after fun next => ?_) fun _ => ?_
  · exact Yields.choose fun life => Yields.after fun access => Yields.after fun referred => hother nofun
  refine Yields.ite (fun _ => Yields.after fun sign => hother nofun) fun _ => Yields.ite (fun _ => ?_) fun _ => ?_
  · refine Yields.after fun lead => Yields.after fun bounds => ?_
    exact Yields.ite (fun _ => hother nofun) fun _ => Yields.failure
  refine Yields.ite (fun _ => Yields.after fun word => hother nofun) fun _ => ?_
  exact Yields.ite (fun _ => yields_objectType true) fun _ => Yields.failure

end

theorem yields_segment (n : Nat) (inExpr : Bool) : ((Grammar.upTo n).segment inExpr).Yields Tree.IsNamedSegment := by
  cases n with
  | zero => exact Yields.failure
  | succ n => exact yields_segmentOf inExpr

/-- A type that is a path ends with a name. -/
theorem yields_type (n : Nat) (plus : Bool) : ((Grammar.upTo n).type plus).Yields Tree.HasPathName := by
  cases n with
  | zero => exact Yields.failure
  | succ n => exact yields_typeOf (fun inExpr => yields_segment n inExpr) plus

end Grammar

end Syntax

open Syntax

/-- The type is a name, or is one that was read somewhere. -/
inductive TypeExpr.Written : TypeExpr → Prop
  | name (name : String) : Written (.ofName name)
  | read {level : Nat} {plus : Bool} {front rest : List Tree} {tree : Tree}
    (h : (Grammar.upTo level).type plus front = some (tree, rest)) : Written ⟨tree⟩

theorem TypeExpr.Written.hasPathName {t : TypeExpr} (h : t.Written) : t.tree.HasPathName := by
  cases h with
  | name name =>
    intro parts hparts
    obtain rfl := (Tree.phrase.inj hparts).2
    exact ⟨[], name, [], rfl⟩
  | read h => exact Grammar.yields_type _ _ _ _ _ h

/-- A text that is read as a type is a written type. -/
theorem TypeExpr.written_of_ofText {text : String} {t : TypeExpr} (h : TypeExpr.ofText text = .ok t) : t.Written := by
  unfold TypeExpr.ofText at h
  split at h
  next u hu =>
    cases h
    obtain ⟨tree, hread, rfl⟩ := Option.map_eq_some_iff.mp hu
    obtain ⟨trees, -, hread⟩ := Option.bind_eq_some_iff.mp hread
    obtain ⟨⟨read, rest⟩, hread, hend⟩ := Option.bind_eq_some_iff.mp hread
    rw [Option.ite_none_right_eq_some, Option.some.injEq] at hend
    exact .read (hend.2 ▸ hread)
  next => cases h

theorem simpleName?_of_endsNamed {parts : List Tree} (h : EndsNamed parts) :
    (TypeExpr.mk (.phrase .typePath parts)).simpleName?.isSome = true := by
  obtain ⟨front, text, arguments, rfl⟩ := h
  simp [TypeExpr.simpleName?, TypeExpr.lastSegment?, Tree.stripParens, Syntax.lastSegment?, word?]

/-- A written type that can be a key has a name to name a service after. -/
theorem exists_serviceIdentifier {key : TypeExpr} (hkey : checkKey key = .ok ()) (hwritten : key.Written) :
    ∃ id, serviceIdentifier key = .ok id := by
  have hname : key.simpleName?.isSome = true := by
    rw [checkKey] at hkey
    split at hkey
    next => cases hkey
    next hfault =>
      unfold keyFault? at hfault
      split at hfault
      · cases hfault
      next hcategory =>
        -- A path is written with a name at its end.
        obtain ⟨tree⟩ := key
        cases tree with
        | token t => cases hcategory
        | group d inner => cases hcategory
        | phrase c parts =>
          obtain rfl : c = .typePath := Option.some.inj hcategory
          exact simpleName?_of_endsNamed (hwritten.hasPathName parts rfl)
      · split at hfault
        · assumption
        · cases hfault
      · cases hfault
  obtain ⟨name, hname⟩ := Option.isSome_iff_exists.mp hname
  rw [serviceIdentifier, hname]
  exact ⟨_, rfl⟩

end ServiceContainer
