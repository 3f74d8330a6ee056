import ServiceContainer.Proofs.Findings
import ServiceContainer.Proofs.MemberNames

/-!
# Prefixes of paths

One type can be written with different paths. The identifier of a key is made of the last segments of its path and of
the paths of its arguments, so it does not depend on what stands before them; only an argument without a name of its own
contributes the letters of its whole text. So two registrations with one key in two spellings are noticed, unless the
spellings differ inside such an argument.

## Main definitions

* `Tree.unqualified` — the tree with each path cut down to its last segment
* `TypeExpr.namelessLetters` — the letters of the arguments without a name

## Main statements

* `lastSegment?_unqualified` — the last segment of a type is found without the prefixes
* `serviceIdentifier_unqualified` — keys that differ in prefixes have one identifier
* `Container.spellings_noticed` — registrations with such keys are noticed
-/

namespace ServiceContainer

namespace Syntax

/-! ### Trees without prefixes -/

/-- The trees begin with a segment. -/
def atSegment : List Tree → Bool
  | .phrase .segment _ :: _ => true
  | _ => false

/-- The tree leads to the last segment of a path when these trees follow: a segment before `::` and another segment, or
one of the marks of `::` before a segment. -/
def Tree.leads : Tree → List Tree → Bool
  | .phrase .segment _, .token (.punct ':' true) :: .token (.punct ':' false) :: more => atSegment more
  | .token (.punct ':' true), .token (.punct ':' false) :: more => atSegment more
  | .token (.punct ':' false), more => atSegment more
  | _, _ => false

mutual

/-- The tree with each path cut down to its last segment. -/
def Tree.unqualified : Tree → Tree
  | .token t => .token t
  | .group d inner => .group d (unqualifiedIn inner)
  | .phrase c parts => .phrase c (unqualifiedIn parts)

/-- The trees with each path cut down to its last segment. -/
def unqualifiedIn : List Tree → List Tree
  | [] => []
  | t :: ts => if t.leads ts then unqualifiedIn ts else t.unqualified :: unqualifiedIn ts

end

section

variable {t u x : Tree} {ts : List Tree}

/-- What leads on has no name, is no type and no bound, and neither begins what follows with a name nor ends the
trees. -/
theorem Tree.leads_cases (h : t.leads ts = true) :
    ((∃ parts, t = .phrase .segment parts) ∨ ∃ joint, t = .token (.punct ':' joint)) ∧
    ((∃ parts more, ts = .phrase .segment parts :: more) ∨ ∃ joint more, ts = .token (.punct ':' joint) :: more) := by
  unfold Tree.leads at h
  split at h
  · exact ⟨.inl ⟨_, rfl⟩, .inr ⟨_, _, rfl⟩⟩
  · exact ⟨.inr ⟨_, rfl⟩, .inr ⟨_, _, rfl⟩⟩
  · refine ⟨.inr ⟨_, rfl⟩, .inl ?_⟩
    unfold atSegment at h
    split at h
    · exact ⟨_, _, rfl⟩
    · cases h
  · cases h

/-- Only a mark leads to a last tree, which is a segment. -/
theorem Tree.leads_singleton (h : t.leads [u] = true) : ∃ parts, u = .phrase .segment parts := by
  unfold Tree.leads at h
  split at h
  next heq => cases heq
  next heq =>
    obtain ⟨-, rfl⟩ := List.cons.inj heq
    cases h
  next =>
    unfold atSegment at h
    split at h
    next heq => exact ⟨_, (List.cons.inj heq).1⟩
    next => cases h
  next => cases h

@[simp] theorem unqualifiedIn_eq_nil : unqualifiedIn ts = [] ↔ ts = [] := by
  induction ts with
  | nil => simp [unqualifiedIn]
  | cons t ts ih =>
    rw [unqualifiedIn]
    split
    next hleads =>
      have hne : ts ≠ [] := by
        rintro rfl
        obtain ⟨-, ⟨_, _, h⟩ | ⟨_, _, h⟩⟩ := Tree.leads_cases hleads <;> cases h
      simp [ih, hne]
    next => simp

@[simp] theorem unqualifiedIn_singleton (t : Tree) : unqualifiedIn [t] = [t.unqualified] := by
  have hleads : t.leads [] = false := by
    rw [← Bool.not_eq_true]
    intro h
    obtain ⟨-, ⟨_, _, h⟩ | ⟨_, _, h⟩⟩ := Tree.leads_cases h <;> cases h
  rw [unqualifiedIn, hleads, unqualifiedIn]
  rfl

/-- A tree that is left alone and is no segment was alone. -/
theorem eq_singleton_of_unqualifiedIn (h : unqualifiedIn ts = [x]) (hx : ∀ parts, x ≠ .phrase .segment parts) :
    ∃ t, ts = [t] ∧ t.unqualified = x := by
  induction ts with
  | nil => cases h
  | cons t ts ih =>
    rw [unqualifiedIn] at h
    split at h
    next hleads =>
      obtain ⟨u, rfl, rfl⟩ := ih h
      obtain ⟨parts, rfl⟩ := Tree.leads_singleton hleads
      exact absurd rfl (hx _)
    next =>
      obtain ⟨rfl, hnil⟩ := List.cons.inj h
      obtain rfl := unqualifiedIn_eq_nil.mp hnil
      exact ⟨t, rfl, rfl⟩

/-- The last tree is never a prefix. -/
theorem getLast?_unqualifiedIn : (unqualifiedIn ts).getLast? = ts.getLast?.map Tree.unqualified := by
  induction ts with
  | nil => rfl
  | cons t ts ih =>
    rw [unqualifiedIn]
    split
    next hleads =>
      rw [ih]
      obtain ⟨-, ⟨_, _, rfl⟩ | ⟨_, _, rfl⟩⟩ := Tree.leads_cases hleads <;> rw [List.getLast?_cons_cons]
    next =>
      rw [List.getLast?_cons, List.getLast?_cons, ih]
      cases ts.getLast? <;> rfl

/-- What is found among the trees, and neither in segments nor in marks, is found among them without prefixes. -/
theorem filterMap_unqualifiedIn {α : Type} {f g : Tree → Option α}
    (hsegment : ∀ parts, f (.phrase .segment parts) = none) (hmark : ∀ joint, f (.token (.punct ':' joint)) = none)
    (hfound : ∀ t, g t.unqualified = f t) : (unqualifiedIn ts).filterMap g = ts.filterMap f := by
  induction ts with
  | nil => rfl
  | cons t ts ih =>
    rw [unqualifiedIn]
    split
    next hleads =>
      have hnone : f t = none := by
        obtain ⟨⟨parts, rfl⟩ | ⟨joint, rfl⟩, -⟩ := Tree.leads_cases hleads
        · exact hsegment parts
        · exact hmark joint
      rw [ih, List.filterMap_cons_none hnone]
    next => rw [List.filterMap_cons, List.filterMap_cons, hfound, ih]

theorem word?_unqualifiedIn : word? (unqualifiedIn ts) = word? ts := by
  induction ts with
  | nil => rfl
  | cons t ts ih =>
    rw [unqualifiedIn]
    split
    next hleads =>
      rw [ih]
      obtain ⟨⟨_, rfl⟩ | ⟨_, rfl⟩, ⟨_, _, rfl⟩ | ⟨_, _, rfl⟩⟩ := Tree.leads_cases hleads <;> rfl
    next =>
      cases t with
      | token t => cases t <;> rfl
      | group d inner => rfl
      | phrase c parts => rfl

/-! ### Last segments -/

theorem lastSegment?_unqualifiedIn : lastSegment? (unqualifiedIn ts) = (lastSegment? ts).map unqualifiedIn := by
  rw [lastSegment?, lastSegment?, getLast?_unqualifiedIn]
  cases ts.getLast? with
  | none => rfl
  | some t =>
    rw [Option.map_some]
    cases t with
    | token t => rfl
    | group d inner => rfl
    | phrase c parts => cases c <;> rfl

/-- A group in parentheses alone stays one, and nothing else becomes one. -/
theorem unqualifiedIn_eq_paren {inner : List Tree} (h : unqualifiedIn ts = [.group .paren inner]) :
    ∃ inner', ts = [.group .paren inner'] ∧ unqualifiedIn inner' = inner := by
  obtain ⟨t, rfl, ht⟩ := eq_singleton_of_unqualifiedIn h nofun
  cases t with
  | token t => cases ht
  | group d inner' =>
    cases ht
    exact ⟨inner', rfl, rfl⟩
  | phrase c parts => cases ht

/-- What is in parentheses and no single type is none without prefixes either: at most a segment is left of it. -/
theorem stripParens_unqualifiedIn (h : ∀ t, ts ≠ [.group .paren [t]]) :
    (Tree.phrase .parens (unqualifiedIn ts)).stripParens = .phrase .parens (unqualifiedIn ts) ∨
      ∃ parts, (Tree.phrase .parens (unqualifiedIn ts)).stripParens = .phrase .segment parts := by
  by_cases hsingle : ∃ t, unqualifiedIn ts = [.group .paren [t]]
  · obtain ⟨t, ht⟩ := hsingle
    obtain ⟨inner, rfl, hinner⟩ := unqualifiedIn_eq_paren ht
    by_cases hsegment : ∃ parts, t = .phrase .segment parts
    · obtain ⟨parts, rfl⟩ := hsegment
      right
      refine ⟨parts, ?_⟩
      rw [ht, Tree.stripParens, Tree.stripParens]
      rintro t heq
      cases heq
    · obtain ⟨u, rfl, -⟩ := eq_singleton_of_unqualifiedIn hinner fun parts heq => hsegment ⟨parts, heq⟩
      exact absurd rfl (h u)
  · left
    rw [Tree.stripParens]
    exact fun t heq => hsingle ⟨t, (Tree.phrase.inj heq).2⟩

theorem boundPath?_unqualified (t : Tree) : boundPath? t.unqualified = (boundPath? t).map unqualifiedIn := by
  cases t with
  | token t => rfl
  | group d inner => rfl
  | phrase c parts =>
    by_cases hc : c = .traitBound
    · subst hc
      by_cases hparen : ∃ inner, parts = [.group .paren inner]
      · obtain ⟨inner, rfl⟩ := hparen
        rw [Tree.unqualified, unqualifiedIn_singleton]
        rfl
      · have hnone : ¬ ∃ inner, unqualifiedIn parts = [.group .paren inner] := fun ⟨inner, h⟩ => by
          obtain ⟨inner', hparts, -⟩ := unqualifiedIn_eq_paren h
          exact hparen ⟨inner', hparts⟩
        have hwhole (ps : List Tree) (hps : ¬ ∃ inner, ps = [.group .paren inner]) :
            boundPath? (.phrase .traitBound ps) = some ps := by
          unfold boundPath?
          split
          next heq =>
            cases heq
            exact absurd ⟨_, rfl⟩ hps
          next heq =>
            cases heq
            rfl
          next hother => exact absurd rfl (hother ps)
        rw [Tree.unqualified, hwhole _ hnone, hwhole _ hparen]
        rfl
    · have hnone (ps : List Tree) : boundPath? (.phrase c ps) = none := by
        unfold boundPath?
        split
        next heq =>
          cases heq
          exact absurd rfl hc
        next heq =>
          cases heq
          exact absurd rfl hc
        next => rfl
      rw [Tree.unqualified, hnone, hnone]
      rfl

end

end Syntax

namespace TypeExpr

/-- The type with each path cut down to its last segment. -/
def unqualified (t : TypeExpr) : TypeExpr := ⟨t.tree.unqualified⟩

open Syntax

/-- The last segment of a type is found without the prefixes. -/
theorem lastSegment?_unqualified (t : TypeExpr) : t.unqualified.lastSegment? = t.lastSegment?.map unqualifiedIn := by
  obtain ⟨t⟩ := t
  simp only [unqualified, TypeExpr.lastSegment?]
  -- The induction is on the parentheses around the type.
  fun_induction Tree.stripParens t with
  | case1 t ih =>
    rw [Tree.unqualified, unqualifiedIn_singleton, Tree.unqualified, unqualifiedIn_singleton, Tree.stripParens]
    exact ih
  | case2 t hparens =>
    cases t with
    | token t => rfl
    | group d inner => rfl
    | phrase c parts =>
      rw [Tree.unqualified]
      by_cases hc : c = .parens
      · -- These parentheses do not hold one type, and there is a last segment neither way.
        subst hc
        rcases stripParens_unqualifiedIn fun t heq => hparens t (congrArg _ heq) with hstrip | ⟨ps, hstrip⟩
        · rw [hstrip]
          rfl
        · rw [hstrip]
          rfl
      · have hstrip : (Tree.phrase c (unqualifiedIn parts)).stripParens = .phrase c (unqualifiedIn parts) := by
          rw [Tree.stripParens]
          exact fun t heq => hc (Tree.phrase.inj heq).1
        rw [hstrip]
        cases c with
        | typePath => exact lastSegment?_unqualifiedIn
        | object =>
          have hbounds : (unqualifiedIn parts).filterMap boundPath? =
              (parts.filterMap boundPath?).map unqualifiedIn := by
            rw [List.map_filterMap]
            exact filterMap_unqualifiedIn (fun _ => rfl) (fun _ => rfl) boundPath?_unqualified
          dsimp only
          rw [← List.head?_filterMap, ← List.head?_filterMap, hbounds, List.head?_map]
          cases (parts.filterMap boundPath?).head? with
          | none => rfl
          | some path => exact lastSegment?_unqualifiedIn
        | _ => rfl

theorem simpleName?_unqualified (t : TypeExpr) : t.unqualified.simpleName? = t.simpleName? := by
  rw [simpleName?, simpleName?, lastSegment?_unqualified]
  cases t.lastSegment? with
  | none => rfl
  | some parts => exact word?_unqualifiedIn

theorem typesAmong_unqualifiedIn (parts : List Tree) :
    typesAmong (unqualifiedIn parts) = (typesAmong parts).map unqualified := by
  rw [typesAmong, typesAmong, List.map_filterMap]
  refine filterMap_unqualifiedIn (fun _ => rfl) (fun _ => rfl) fun t => ?_
  cases t with
  | token t => rfl
  | group d inner => rfl
  | phrase c inner =>
    dsimp only [Tree.unqualified]
    split <;> rfl

/-- A segment that is more or less than a name with arguments in angle brackets has none. -/
theorem typeArguments_eq_nil {t : TypeExpr} {first : Tree} {rest : List Tree}
    (hlast : t.lastSegment? = some (first :: rest)) (hrest : ¬ ∃ inner, rest = [.phrase .angle inner]) :
    t.typeArguments = [] := by
  unfold typeArguments
  split
  next heq =>
    rw [hlast] at heq
    cases heq
    exact absurd ⟨_, rfl⟩ hrest
  next => rfl

/-- The arguments of a type with a name, without prefixes, are those of the type without prefixes. -/
theorem typeArguments_unqualified {t : TypeExpr} (h : t.simpleName?.isSome = true) :
    t.unqualified.typeArguments = t.typeArguments.map unqualified := by
  obtain ⟨name, hname⟩ := Option.isSome_iff_exists.mp h
  obtain ⟨parts, hlast, hword⟩ := Option.bind_eq_some_iff.mp hname
  obtain ⟨rest, rfl⟩ := word?_eq_some hword
  -- The name leads nowhere, so it stays the first part of the segment.
  have hlast' : t.unqualified.lastSegment? = some (.token (.ident name) :: unqualifiedIn rest) := by
    rw [lastSegment?_unqualified, hlast, Option.map_some, unqualifiedIn]
    rfl
  by_cases hangle : ∃ inner, rest = [.phrase .angle inner]
  · obtain ⟨inner, rfl⟩ := hangle
    rw [unqualifiedIn_singleton] at hlast'
    rw [typeArguments, typeArguments, hlast, hlast']
    exact typesAmong_unqualifiedIn inner
  · have hnone : ¬ ∃ inner, unqualifiedIn rest = [.phrase .angle inner] := by
      rintro ⟨inner, hinner⟩
      obtain ⟨t, rfl, ht⟩ := eq_singleton_of_unqualifiedIn hinner nofun
      cases t with
      | token t => cases ht
      | group d inner' => cases ht
      | phrase c inner' =>
        cases ht
        exact hangle ⟨inner', rfl⟩
    rw [typeArguments_eq_nil hlast' hnone, typeArguments_eq_nil hlast hangle, List.map_nil]

/-- The letters of the arguments that have no name. -/
def namelessLetters (t : TypeExpr) : List (List Char) :=
  (t.typeArguments.filter (·.simpleName?.isNone)).map letters

end TypeExpr

/-! ### Identifiers -/

section

variable {s t : TypeExpr}

theorem simpleName?_eq_of_unqualified (h : s.unqualified = t.unqualified) : s.simpleName? = t.simpleName? := by
  rw [← TypeExpr.simpleName?_unqualified, h, TypeExpr.simpleName?_unqualified]

/-- Arguments that differ in prefixes have the same names, if those without a name have the same letters. -/
theorem map_argumentName_eq {as bs : List TypeExpr} (h : as.map TypeExpr.unqualified = bs.map TypeExpr.unqualified)
    (hletters : (as.filter (·.simpleName?.isNone)).map TypeExpr.letters =
      (bs.filter (·.simpleName?.isNone)).map TypeExpr.letters) :
    as.map argumentName = bs.map argumentName := by
  induction as generalizing bs with
  | nil =>
    obtain rfl := List.map_eq_nil_iff.mp h.symm
    rfl
  | cons a as ih =>
    obtain ⟨b, bs, rfl, hb, hbs⟩ := List.map_eq_cons_iff.mp h.symm
    -- Prefixes give no argument a name, so the filter keeps both first arguments or neither.
    have hname : b.simpleName? = a.simpleName? := simpleName?_eq_of_unqualified hb
    rw [List.filter_cons, List.filter_cons, hname] at hletters
    rw [List.map_cons, List.map_cons]
    cases haname : a.simpleName? with
    | some name =>
      simp only [haname, Option.isNone_some, Bool.false_eq_true, if_false] at hletters
      rw [argumentName, argumentName, hname, haname, ih hbs.symm hletters]
    | none =>
      simp only [haname, Option.isNone_none, if_true, List.map_cons] at hletters
      obtain ⟨hfirst, hletters⟩ := List.cons.inj hletters
      rw [argumentName_of_nameless haname, argumentName_of_nameless (hname.trans haname), hfirst, ih hbs.symm hletters]

/-- Keys that differ in prefixes have one identifier, if their arguments without a name have the same letters. -/
theorem serviceIdentifier_unqualified (h : s.unqualified = t.unqualified)
    (hletters : s.namelessLetters = t.namelessLetters) :
    (serviceIdentifier s).toOption = (serviceIdentifier t).toOption := by
  have hname := simpleName?_eq_of_unqualified h
  rw [serviceIdentifier, serviceIdentifier, hname]
  cases htname : t.simpleName? with
  | none => rfl
  | some name =>
    have harguments : s.typeArguments.map TypeExpr.unqualified = t.typeArguments.map TypeExpr.unqualified := by
      rw [← TypeExpr.typeArguments_unqualified (by rw [hname, htname]; rfl), h,
        TypeExpr.typeArguments_unqualified (by rw [htname]; rfl)]
    have hnames := map_argumentName_eq harguments hletters
    have hpieces (u : TypeExpr) : (u.typeArguments.flatMap fun a => [argumentSeparator, argumentName a]) =
        (u.typeArguments.map argumentName).flatMap fun name => [argumentSeparator, name] := by
      rw [List.flatMap_map]
    dsimp only
    rw [hpieces, hpieces, hnames]

end

/-! ### Registrations with one key in two spellings -/

section

variable {o : Options} {rs : List Registration} {r s : Registration} {c : Container}

/-- Where a function has different values, it has different ones at two elements. -/
theorem ne_of_subperm {α β : Type} {f : α → β} {x y : α} {xs : List α} (h : [x, y].Subperm xs)
    (hnodup : (xs.map f).Nodup) : f x ≠ f y := by
  obtain ⟨zs, hperm, hsub⟩ := h
  have hpair : ([x, y].map f).Nodup := (hperm.map f).nodup_iff.mp (hnodup.sublist (hsub.map f))
  simpa using hpair

/-- In a container two registrations of one provider have different identifiers. -/
theorem identifier?_ne_of_subperm (hmade : c.MadeFrom o rs) (hrs : [r, s].Subperm rs)
    (hsame : r.lifetime.belongsToRoot = s.lifetime.belongsToRoot) : r.identifier? ≠ s.identifier? := by
  cases hroot : s.lifetime.belongsToRoot with
  | true =>
    have hfilter := hrs.filter (·.lifetime.belongsToRoot)
    simp only [List.filter_cons, hsame, hroot, if_true, List.filter_nil] at hfilter
    exact ne_of_subperm hfilter hmade.root.distinct
  | false =>
    have hfilter := hrs.filter (!·.lifetime.belongsToRoot)
    simp only [List.filter_cons, hsame, hroot, Bool.not_false, if_true, List.filter_nil] at hfilter
    exact ne_of_subperm hfilter hmade.nested.distinct

/-- In a container a scoped registration with the identifier of one of the root provider is warned of. -/
theorem shadowWarning_mem_notes (hmade : c.MadeFrom o rs) (hkeys : (rs.map (·.key.display)).Nodup)
    (hr : r ∈ rootRegistrations rs) (hs : s ∈ scopedRegistrations rs) {id : String} (hrid : r.IsIdentifiedBy id)
    (hsid : s.IsIdentifiedBy id) : shadowWarning id s r ∈ (Container.ofRegistrations o rs).notes := by
  rw [hmade.ofRegistrations_eq hkeys]
  refine List.mem_flatMap.mpr ⟨s, hs, ?_⟩
  have hshadows := shadows_shadowNotes hmade.root.distinct (hmade.nested.accessible s hs)
  generalize shadowNotes _ s = warnings at hshadows
  cases hshadows with
  | alone identified noOther =>
    obtain rfl := Except.ok.inj (hsid.symm.trans identified)
    exact absurd hrid (noOther r hr)
  | @shadows id' before after q identified split same only =>
    obtain rfl := Except.ok.inj (hsid.symm.trans identified)
    -- The one that is warned of is the only one with the identifier.
    have hrq : r = q := by
      rw [split, List.mem_append, List.mem_cons] at hr
      by_contra hne
      refine only r (List.mem_append.mpr ?_) hrid
      rcases hr with hr | rfl | hr
      · exact .inl hr
      · exact absurd rfl hne
      · exact .inr hr
    rw [hrq]
    exact List.mem_singleton_self _

end

/-- Two registrations whose keys differ in prefixes of paths, in any list of registrations, have one identifier if the
arguments of the keys without a name have the same letters. In one provider they are an error; and one of the scoped
provider beside one of the root provider is an error or is warned of. -/
theorem Container.spellings_noticed {o : Options} {rs : List Registration} {r s : Registration}
    (hrs : [r, s].Subperm rs) (hkeys : r.key.unqualified = s.key.unqualified)
    (hletters : r.key.namelessLetters = s.key.namelessLetters) :
    (serviceIdentifier r.key).toOption = (serviceIdentifier s.key).toOption ∧
    (r.lifetime.belongsToRoot = s.lifetime.belongsToRoot → ∃ e, (Container.ofRegistrations o rs).outcome = .error e) ∧
    (r.lifetime.belongsToRoot = true → s.lifetime.belongsToRoot = false →
      (∃ e, (Container.ofRegistrations o rs).outcome = .error e) ∨
        ∃ id, serviceIdentifier r.key = .ok id ∧ serviceIdentifier s.key = .ok id ∧
          shadowWarning id s r ∈ (Container.ofRegistrations o rs).notes) := by
  have hidentifier := serviceIdentifier_unqualified hkeys hletters
  refine ⟨hidentifier, fun hsame => ?_, fun hroot hscoped => ?_⟩
  · -- A container would give the two different identifiers.
    cases hresult : (Container.ofRegistrations o rs).outcome with
    | error e => exact ⟨e, rfl⟩
    | ok c =>
      obtain ⟨-, hmade⟩ := Container.ofRegistrations_eq_ok_iff.mp hresult
      exact absurd hidentifier (identifier?_ne_of_subperm hmade hrs hsame)
  · cases hresult : (Container.ofRegistrations o rs).outcome with
    | error e => exact .inl ⟨e, rfl⟩
    | ok c =>
      obtain ⟨hdisplays, hmade⟩ := Container.ofRegistrations_eq_ok_iff.mp hresult
      have hr : r ∈ rootRegistrations rs := List.mem_filter.mpr ⟨hrs.subset (by simp), hroot⟩
      have hs : s ∈ scopedRegistrations rs := List.mem_filter.mpr ⟨hrs.subset (by simp), by simp [hscoped]⟩
      obtain ⟨a, ha⟩ := hmade.root.accessible r hr
      obtain ⟨id, hrid⟩ := Registration.exists_identifier ha
      have hsid : serviceIdentifier s.key = .ok id := by
        rw [hrid] at hidentifier
        exact toOption_eq_some.mp hidentifier.symm
      exact .inr ⟨id, hrid, hsid, shadowWarning_mem_notes hmade hdisplays hr hs hrid hsid⟩

namespace Sample

open Syntax (Tree operator)

/-- The path `Greeter`, and the path `self::Greeter`. -/
def greeterPaths : List Tree × List Tree :=
  ([.phrase .segment [.ident "Greeter"]],
    [.phrase .segment [.ident "self"]] ++ operator "::" ++ [.phrase .segment [.ident "Greeter"]])

/-- A service for the trait with a path. -/
def greets (path : List Tree) (lifetime : Lifetime) : Registration :=
  { registered "English" lifetime .default false with
    key := ⟨.phrase .object [.ident "dyn", .phrase .traitBound path]⟩ }

/-- A service for the handler of references to the type with a path. -/
def handles (path : List Tree) : Registration :=
  { registered "Desk" .singleton .default false with
    key := ⟨.phrase .typePath [.phrase .segment [.ident "Handler", .phrase .angle
      (operator "<" ++ .phrase .reference (operator "&" ++ [.phrase .typePath path]) :: operator ">")]]⟩ }

end Sample

/-- A scoped greeter is warned of beside one of the root provider that is written with another path. -/
theorem Container.spellings_noticed_greeters :
    let r := Sample.greets Sample.greeterPaths.1 .singleton
    let s := Sample.greets Sample.greeterPaths.2 .scoped
    r.key.display = "dyn Greeter" ∧ s.key.display = "dyn self::Greeter" ∧ [r, s].Subperm [s, r] ∧
      r.key.unqualified = s.key.unqualified ∧ r.key.namelessLetters = s.key.namelessLetters ∧
      ∃ id, serviceIdentifier r.key = .ok id ∧ serviceIdentifier s.key = .ok id ∧
        shadowWarning id s r ∈ (Container.ofRegistrations {} [s, r]).notes := by
  intro r s
  have hrs : [r, s].Subperm [s, r] := (List.Perm.swap s r []).subperm
  have hletters : r.key.namelessLetters = s.key.namelessLetters := by decide +kernel
  have hmade : (Container.ofRegistrations {} [s, r]).outcome.toOption.isSome = true := by decide +kernel
  obtain ⟨-, -, hwarned⟩ := Container.spellings_noticed (o := {}) hrs rfl hletters
  refine ⟨by decide +kernel, by decide +kernel, hrs, rfl, hletters, ?_⟩
  rcases hwarned rfl rfl with ⟨e, he⟩ | hnoted
  · rw [he] at hmade
    exact nomatch hmade
  · exact hnoted

/-- Two handlers of references to one type are registered beside each other. -/
theorem Container.not_spellings_noticed : ¬ ∀ (o : Options) (rs : List Registration) (r s : Registration),
    o.validate = .ok () → [r, s].Subperm rs → r.key.unqualified = s.key.unqualified →
      r.lifetime.belongsToRoot = s.lifetime.belongsToRoot →
        ∃ e, (Container.ofRegistrations o rs).outcome = .error e := by
  intro h
  let r := Sample.handles [.phrase .segment [.ident "Order"]]
  let s := Sample.handles
    ([.phrase .segment [.ident "crate"]] ++ Syntax.operator "::" ++ [.phrase .segment [.ident "Order"]])
  have hvalid : ({} : Options).validate = .ok () := by decide +kernel
  have hmade : (Container.ofRegistrations {} [r, s]).outcome.toOption.isSome = true := by decide +kernel
  obtain ⟨e, he⟩ := h {} [r, s] r s hvalid (.refl _) rfl rfl
  rw [he] at hmade
  exact nomatch hmade

end ServiceContainer
