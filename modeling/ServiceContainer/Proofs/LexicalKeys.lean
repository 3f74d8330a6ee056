import ServiceContainer.Proofs.Identifiers
import ServiceContainer.Proofs.ItemWords
import ServiceContainer.Proofs.Keeper
import ServiceContainer.Proofs.MarkerGrammar

/-!
# Keys are lexical

The lexer makes a token of each word of a text, and its other tokens are no words. Parsers hand on the words they find,
so a type that was read from a text has only words where its tree has room for one. This holds of the keys of
registrations: each was written in a manifest or in a module, and the trees of a module are those of its text.

## Main definitions

* `Source.IsLexical` — sources that were read from texts

## Main statements

* `Syntax.lexical_of_treesOf?` — the trees of a text are lexical
* `TypeExpr.isLexical_of_ofText` — so is a type that is read from one
* `Source.Declares.isLexical` — and so are the keys of registrations
* `Assembly.laidOut_of_compose` — a composed container is laid out
-/

namespace ServiceContainer

namespace Syntax

section

variable {cs : List Char} {text : String} {trees : List Tree} {items : List Item} {m : ModuleItem}

/-! ### The lexer -/

theorem lexical_documentationTrees (inner : Bool) (cs : List Char) : Lexical (documentationTrees inner cs) := by
  have : Lexical.From True "doc" := ⟨fun _ => List.forall_mem_singleton.mpr (by decide)⟩
  have hlexical : Lexical.From True (documentationTrees inner cs) := by
    unfold documentationTrees
    infer_instance
  exact hlexical.lexical trivial

theorem lexical_of_documentation? {rest : List Char} (h : documentation? cs = some (trees, rest)) : Lexical trees := by
  obtain ⟨⟨inner, line, after⟩, -, htrees⟩ := Option.bind_eq_some_iff.mp h
  rw [Option.ite_none_right_eq_some, Option.some.injEq, Prod.mk.injEq] at htrees
  exact htrees.2.1 ▸ lexical_documentationTrees inner line

theorem lexical_of_leaf? {t : Token} {rest : List Char} (h : leaf? cs = some (t, rest)) : Lexical (Tree.token t) := by
  cases t with
  | ident text => exact List.forall_mem_singleton.mpr (name?_of_name? (name?_of_leaf? h))
  | lifetime | punct | literal => exact lexical_token fun _ heq => by cases heq

/-- The attribute of a documentation comment and the words of the text are lexical, and so is what is in groups. -/
theorem lexical_of_treesUpTo {fuel : Nat} {rest : List Char} (h : treesUpTo fuel cs = some (trees, rest)) :
    Lexical trees := by
  induction fuel generalizing cs trees rest with
  | zero => cases h
  | succ fuel ih =>
    rw [treesUpTo] at h
    split at h
    · cases h
      exact lexical_nil
    · split at h
      next documentation after hdocumentation =>
        -- The only word of a documentation comment is that of its attribute.
        obtain ⟨⟨more, rest'⟩, hmore, heq⟩ := Option.bind_eq_some_iff.mp h
        cases heq
        exact lexical_append.mpr ⟨lexical_of_documentation? hdocumentation, ih hmore⟩
      next =>
        split at h
        · cases h
          exact lexical_nil
        · split at h
          next d _ =>
            obtain ⟨⟨inner, after⟩, hinner, h⟩ := Option.bind_eq_some_iff.mp h
            dsimp only at h
            split at h
            · -- A group, and what follows it.
              rw [Option.ite_none_right_eq_some] at h
              obtain ⟨⟨more, rest'⟩, hmore, heq⟩ := Option.bind_eq_some_iff.mp h.2
              cases heq
              exact lexical_cons.mpr ⟨lexical_group.mpr (ih hinner), ih hmore⟩
            · cases h
          next =>
            obtain ⟨⟨token, after⟩, hleaf, h⟩ := Option.bind_eq_some_iff.mp h
            obtain ⟨⟨more, rest'⟩, hmore, heq⟩ := Option.bind_eq_some_iff.mp h
            cases heq
            exact lexical_cons.mpr ⟨lexical_of_leaf? hleaf, ih hmore⟩

theorem lexical_of_treesOf? (h : treesOf? cs = some trees) : Lexical trees := by
  obtain ⟨⟨trees', rest⟩, hread, hend⟩ := Option.bind_eq_some_iff.mp h
  rw [Option.ite_none_right_eq_some, Option.some.injEq] at hend
  exact hend.2 ▸ lexical_of_treesUpTo hread

/-! ### Texts -/

/-- The items of a file are lexical. -/
theorem lexical_of_readItems? (h : readItems? text = some items) : Lexical items := by
  obtain ⟨trees, htrees, hread⟩ := Option.bind_eq_some_iff.mp h
  exact lexical_of_readTrees? (fun g => inferInstance) (lexical_of_treesOf? htrees) hread

/-- The items of a module are lexical. -/
theorem lexical_of_readModule? (htrees : trees? text = some trees) (h : readModule? trees = some m)
    (hitems : m.items = some items) : Lexical items := by
  have hm : Lexical m := lexical_of_readTrees? (fun g => inferInstance) (lexical_of_treesOf? htrees) h
  have hinside := (lexical_module.mp hm).2.2
  rwa [hitems] at hinside

end

end Syntax

open Syntax

/-! ### Types -/

theorem TypeExpr.isLexical_iff {t : TypeExpr} : t.IsLexical ↔ Lexical t.tree :=
  forall_congr' fun _ => by rw [mem_words_tree]

/-- **A type that was read is lexical.** -/
theorem TypeExpr.isLexical_of_ofText {text : String} {t : TypeExpr} (h : TypeExpr.ofText text = .ok t) :
    t.IsLexical := by
  unfold TypeExpr.ofText at h
  split at h
  next u hu =>
    cases h
    obtain ⟨tree, hread, rfl⟩ := Option.map_eq_some_iff.mp hu
    obtain ⟨trees, htrees, hread⟩ := Option.bind_eq_some_iff.mp hread
    exact isLexical_iff.mpr (lexical_of_readTrees? (fun g => inferInstance) (lexical_of_treesOf? htrees) hread)
  next => cases h

/-! ### Markers -/

namespace MarkerArgument

variable {trees : List Tree} {args : List MarkerArgument} {name : String} {t : TypeExpr}

theorem Written.isLexical (h : Written trees (.assigned name t)) (htrees : Lexical trees) : t.IsLexical := by
  cases h with
  | assigned joint hname htype =>
    have htrees := (lexical_cons.mp (lexical_cons.mp htrees).2).2
    exact TypeExpr.isLexical_iff.mpr (lexical_of_readTrees? (fun g => inferInstance) htrees htype)

theorem Separated.isLexical (h : Separated trees args) (htrees : Lexical trees) (ht : .assigned name t ∈ args) :
    t.IsLexical := by
  induction h with
  | one h =>
    obtain rfl := List.mem_singleton.mp ht
    exact h.isLexical htrees
  | more h joint _ ih =>
    obtain ⟨hfront, hrest⟩ := lexical_append.mp htrees
    rcases List.mem_cons.mp ht with rfl | ht
    · exact h.isLexical hfront
    · exact ih (lexical_cons.mp hrest).2 ht

theorem Listed.isLexical (h : Listed trees args) (htrees : Lexical trees) (ht : .assigned name t ∈ args) :
    t.IsLexical := by
  cases h with
  | none => exact absurd ht List.not_mem_nil
  | plain h => exact h.isLexical htrees ht
  | trailing h joint => exact h.isLexical (lexical_append.mp htrees).1 ht

end MarkerArgument

/-- The key of a marker in lexical trees is lexical. -/
theorem Marker.isLexical_of_ofAttribute {body : AttributeBody} {m : Marker} (hbody : Lexical body)
    (h : Marker.ofAttribute body = .ok m) : ∀ t ∈ m.key, t.IsLexical := by
  obtain ⟨path, form⟩ := body
  have hform := (lexical_body.mp hbody).2
  cases form with
  | bare =>
    cases h
    simp
  | list d arguments =>
    obtain ⟨args, hlisted, -, rfl⟩ := markerArguments_eq_ok.mp h
    intro t ht
    obtain ⟨name, hname⟩ := MarkerArgument.mem_types.mp (List.mem_of_mem_head? ht)
    exact hlisted.isLexical hform hname
  | value trees => cases h

/-! ### Sources -/

/-- The items of a module were read from lexical trees, as those of a text are. -/
def Source.IsLexical : Source → Prop
  | .manifest _ => True
  | .module items => Lexical items

section

variable {s : Source} {ds : List Declaration} {o : Options} {rs : List Registration} {t : TypeExpr}

/-- Every type that a lexical source writes is lexical. -/
theorem Source.Writes.isLexical {p : Place} (h : s.Writes p t) (hs : s.IsLexical) : t.IsLexical := by
  cases h with
  | entry _ ht => exact TypeExpr.isLexical_of_ofText ht
  | entryKey _ _ _ ht => exact TypeExpr.isLexical_of_ofText ht
  | entryParameter _ _ _ ht => exact TypeExpr.isLexical_of_ofText ht
  | @definition items d hd =>
    have hdefinition : Lexical d := lexical_iff_forall_mem.mp hs _ hd
    exact TypeExpr.isLexical_ofName ((lexical_definition.mp hdefinition).2.1 _ (List.mem_singleton_self _))
  | @«attribute» items d a _ _ hd ha _ hk ht =>
    have hdefinition : Lexical d := lexical_iff_forall_mem.mp hs _ hd
    have hattribute : Lexical a := lexical_iff_forall_mem.mp (lexical_definition.mp hdefinition).1 a ha
    exact Marker.isLexical_of_ofAttribute hattribute hk t ht
  | @parameter items d b f p hd hb _ hf _ hp =>
    have hblock : Lexical b := lexical_iff_forall_mem.mp hs _ hb
    have hfunction : Lexical f := lexical_iff_forall_mem.mp (lexical_implementation.mp hblock).2.2.2.2 _ hf
    have hparameters := (lexical_signature.mp (lexical_function.mp hfunction).2.2.1).1
    exact TypeExpr.isLexical_iff.mpr (lexical_iff_forall_mem.mp hparameters p hp)

/-- **The keys of registrations are lexical**, whatever source they come from. -/
theorem Source.Declares.isLexical (hs : s.Declares ds) (hlexical : s.IsLexical)
    (hrs : (registrations o.strictMarkers (candidates ds)).outcome = .ok rs) : ∀ r ∈ rs, r.key.IsLexical := by
  intro r hr
  obtain ⟨p, -, hwrites⟩ := hs.exists_writes_key hrs r hr
  exact hwrites.isLexical hlexical

/-- A container of a lexical source is the layout of its registrations. -/
theorem Assembly.laidOut_of_compose {a : Assembly} (hs : s.Declares ds) (hlexical : s.IsLexical)
    (h : (compose o ds).outcome = .ok (rs, a.container)) : a.LaidOut rs := by
  obtain ⟨rs', hrs, h⟩ := Noted.outcome_bind_eq_ok.mp h
  obtain ⟨c, hc, h⟩ := Noted.outcome_bind_eq_ok.mp h
  obtain ⟨rfl, rfl⟩ := Prod.mk.inj (Except.ok.inj h)
  exact ⟨hs.isLexical hlexical hrs, o, hc⟩

end

end ServiceContainer
