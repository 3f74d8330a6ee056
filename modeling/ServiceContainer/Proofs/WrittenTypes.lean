import ServiceContainer.Proofs.FrontEnds
import ServiceContainer.Proofs.ItemNames
import ServiceContainer.Proofs.Members

/-!
# The types that a source writes

A manifest or a module writes types in three places that a container may take them from: the types that it declares, the
keys of markers, and the parameters of constructors. A declaration has its types from there; those of parameters come
with its own type in place of `Self`.

## Main definitions

* `Source`, `Source.Declares` — where declarations are read from
* `Source.Writes` — the types that a source writes
* `Declaration.WrittenIn` — where a declaration has its types from

## Main statements

* `Source.Declares.writtenIn` — every declaration has its types from its source
-/

namespace ServiceContainer

open Syntax (Tree Item Read)

/-- What declarations are read from: a manifest, or the items of a module. -/
inductive Source where
  | manifest (m : Manifest)
  | module (items : List Item)

/-- The declarations are those that are read from the source. -/
def Source.Declares : Source → List Declaration → Prop
  | .manifest m, ds => m.declarations = .ok ds
  | .module items, ds => Read items ∧ declarationsOf items = .ok ds

/-- What a type is written or used for. -/
inductive Place where
  | key | implementation | argument
  deriving DecidableEq, Repr

/-- The source writes a type for a place: as the name of a declared type, as the key of a marker, or for a parameter of
a constructor. In a module, the functions of a type that construct its values may be its constructor. -/
inductive Source.Writes : Source → Place → TypeExpr → Prop
  | entry {m : Manifest} {e : TypeEntry} {t : TypeExpr} (he : e ∈ m.types) (ht : IsText e.name t) :
    Writes (.manifest m) .implementation t
  | entryKey {m : Manifest} {e : TypeEntry} {k : MarkerEntry} {text : String} {t : TypeExpr} (he : e ∈ m.types)
    (hk : k ∈ e.markers) (htext : k.key = some text) (ht : IsText text t) : Writes (.manifest m) .key t
  | entryParameter {m : Manifest} {e : TypeEntry} {c : ConstructorEntry} {text : String} {t : TypeExpr}
    (he : e ∈ m.types) (hc : e.constructor = some c) (htext : text ∈ c.parameters) (ht : IsText text t) :
    Writes (.manifest m) .argument t
  | definition {items : List Item} {d : Syntax.Definition} (hd : .definition d ∈ items) :
    Writes (.module items) .implementation (.ofName d.name)
  | attribute {items : List Item} {d : Syntax.Definition} {a : Syntax.Attribute} {k : Marker} {t : TypeExpr}
    (hd : .definition d ∈ items) (ha : a ∈ d.attributes) (hname : a.name? = some "service")
    (hk : Marker.ofAttribute a.body = .ok k) (ht : k.key = some t) : Writes (.module items) .key t
  | parameter {items : List Item} {d : Syntax.Definition} {b : Syntax.Implementation} {f : Syntax.Function}
    {p : Syntax.Parameter} (hd : .definition d ∈ items) (hb : .implementation b ∈ items) (hown : b.contract = none)
    (hf : .function f ∈ b.members) (hconstructs : (f.method (.ofName d.name)).constructs (.ofName d.name) = true)
    (hp : p ∈ f.signature.parameters) : Writes (.module items) .argument ⟨p.type⟩

/-- The declaration has its types from the source. -/
structure Declaration.WrittenIn (s : Source) (d : Declaration) : Prop where
  type : s.Writes .implementation d.type
  isType : d.type.tree.IsType
  markers : ∀ m ∈ d.markers, ∀ t ∈ m.key, s.Writes .key t
  parameters : ∀ c ∈ d.constructor, ∀ p ∈ c.parameters, ∃ t, s.Writes .argument t ∧ p.type = t.replaceSelf d.type

/-! ### Declarations of a manifest -/

section

variable {m : Manifest} {e : TypeEntry} {d : Declaration}

theorem optionalType_eq_some {text : Option String} {t : TypeExpr} (h : optionalType text = .ok (some t)) :
    ∃ s, text = some s ∧ IsText s t := by
  cases text with
  | none => cases h
  | some s =>
    obtain ⟨t', ht', h⟩ := bind_eq_ok.mp h
    cases h
    exact ⟨s, rfl, ht'⟩

theorem exists_text_of_mem_parametersOf {owner : TypeExpr} {position : Nat} {texts : List String}
    {parameters : List Parameter} (h : parametersOf owner position texts = .ok parameters) :
    ∀ p ∈ parameters, ∃ text ∈ texts, ∃ t, IsText text t ∧ p.type = t.replaceSelf owner := by
  induction texts generalizing position parameters with
  | nil =>
    cases h
    exact fun _ hp => nomatch hp
  | cons text rest ih =>
    obtain ⟨t, ht, h⟩ := bind_eq_ok.mp h
    obtain ⟨more, hmore, h⟩ := bind_eq_ok.mp h
    cases h
    refine List.forall_mem_cons.mpr ⟨⟨text, List.mem_cons_self, t, ht, rfl⟩, fun p hp => ?_⟩
    obtain ⟨text', hmem, hrest⟩ := ih hmore p hp
    exact ⟨text', List.mem_cons_of_mem _ hmem, hrest⟩

/-- The type of an entry is its name, and a path. -/
theorem TypeEntry.type_eq_ok {t : TypeExpr} (h : e.type = .ok t) : IsText e.name t ∧ t.tree.IsType := by
  obtain ⟨read, hread, h⟩ := bind_eq_ok.mp h
  dsimp only at h
  split at h
  next hpath =>
    cases h
    refine ⟨hread, ?_⟩
    rw [Bool.and_eq_true, Bool.or_eq_true, beq_iff_eq, beq_iff_eq] at hpath
    unfold TypeExpr.category? at hpath
    split at hpath
    next c parts htree =>
      -- Both kinds of paths are types.
      rcases hpath.1 with hc | hc <;> cases hc <;> exact ⟨_, parts, htree, rfl⟩
    next => exact hpath.1.elim nofun nofun
  next => cases h

theorem TypeEntry.writtenIn (he : e ∈ m.types) (h : e.declaration = .ok d) : d.WrittenIn (.manifest m) := by
  obtain ⟨type, htype, h⟩ := bind_eq_ok.mp h
  obtain ⟨kind, -, h⟩ := bind_eq_ok.mp h
  obtain ⟨base, -, h⟩ := bind_eq_ok.mp h
  obtain ⟨contracts, -, h⟩ := bind_eq_ok.mp h
  obtain ⟨markers, hmarkers, h⟩ := bind_eq_ok.mp h
  obtain ⟨constructor, hconstructor, h⟩ := bind_eq_ok.mp h
  obtain ⟨methods, -, h⟩ := bind_eq_ok.mp h
  cases h
  obtain ⟨hname, hpath⟩ := TypeEntry.type_eq_ok htype
  refine ⟨.entry he hname, hpath, fun k hk t ht => ?_, fun c hc p hp => ?_⟩
  · obtain ⟨entry, hentry, hmarker⟩ := exists_rel_of_mem_right (mapM_eq_ok.mp hmarkers) hk
    obtain ⟨key, hkey, hmarker⟩ := bind_eq_ok.mp hmarker
    cases hmarker
    obtain rfl : key = some t := ht
    obtain ⟨text, htext, hread⟩ := optionalType_eq_some hkey
    exact .entryKey he hentry htext hread
  · obtain rfl : constructor = some c := hc
    cases hentry : e.constructor with
    | none =>
      rw [hentry] at hconstructor
      cases hconstructor
    | some entry =>
      rw [hentry] at hconstructor
      obtain ⟨c', hc', hsome⟩ := bind_eq_ok.mp hconstructor
      cases hsome
      obtain ⟨parameters, hparameters, hmade⟩ := bind_eq_ok.mp hc'
      cases hmade
      obtain ⟨text, htext, t, hread, hp⟩ := exists_text_of_mem_parametersOf hparameters p hp
      exact ⟨t, .entryParameter he hentry htext hread, hp⟩

end

/-! ### Declarations of a module -/

section

variable {items : List Item} {d d' : Declaration}

/-- The attributes of a definition add no markers but their own. -/
theorem Syntax.Attribute.addTo_markers {a : Syntax.Attribute} (h : a.addTo d = .ok d') :
    ∀ k ∈ d'.markers, k ∈ d.markers ∨ a.name? = some "service" ∧ Marker.ofAttribute a.body = .ok k := by
  intro k hk
  obtain ⟨hname, m, hm, rfl⟩ | ⟨-, -, type, rfl⟩ | ⟨-, rfl⟩ | ⟨-, -, -, rfl⟩ := Syntax.Attribute.addTo_cases h
  · rcases List.mem_append.mp hk with hk | hk
    · exact .inl hk
    · rw [List.mem_singleton.mp hk]
      exact .inr ⟨hname, hm⟩
  · exact .inl hk
  · exact .inl hk
  · exact .inl hk

theorem foldlM_addTo_markers {attributes : List Syntax.Attribute}
    (h : attributes.foldlM (fun d a => a.addTo d) d = .ok d') : ∀ k ∈ d'.markers, k ∈ d.markers ∨
      ∃ a ∈ attributes, a.name? = some "service" ∧ Marker.ofAttribute a.body = .ok k := by
  induction attributes generalizing d with
  | nil =>
    cases h
    exact fun k hk => .inl hk
  | cons a rest ih =>
    rw [List.foldlM_cons] at h
    obtain ⟨next, hnext, h⟩ := bind_eq_ok.mp h
    intro k hk
    rcases ih h k hk with hk | ⟨a', ha', hrest⟩
    · refine (Syntax.Attribute.addTo_markers hnext k hk).imp_right fun hmarker => ?_
      exact ⟨a, List.mem_cons_self, hmarker⟩
    · exact .inr ⟨a', List.mem_cons_of_mem _ ha', hrest⟩

theorem TypeExpr.isType_ofName (name : String) : (TypeExpr.ofName name).tree.IsType := ⟨.typePath, _, rfl, rfl⟩

theorem Syntax.Definition.writtenIn {definition : Syntax.Definition} (hmem : .definition definition ∈ items)
    (h : definition.declaration = .ok d) : d.WrittenIn (.module items) := by
  obtain ⟨htype, hconstructor, -⟩ := foldlM_addTo_functions h
  replace htype : d.type = .ofName definition.name := htype
  refine ⟨htype ▸ .definition hmem, htype ▸ TypeExpr.isType_ofName _, fun k hk t ht => ?_, fun c hc => ?_⟩
  · rcases foldlM_addTo_markers h k hk with hnone | ⟨a, ha, hname, hmarker⟩
    · exact nomatch hnone
    · exact .attribute hmem ha hname hmarker ht
  · rw [hconstructor] at hc
    exact nomatch hc

theorem Declaration.WrittenIn.addContract {s : Source} (h : d.WrittenIn s) (contract : TypeExpr) :
    (d.addContract contract).WrittenIn s := by
  unfold Declaration.addContract
  split
  · exact ⟨h.type, h.isType, h.markers, h.parameters⟩
  · split
    · exact h
    · exact ⟨h.type, h.isType, h.markers, h.parameters⟩

theorem Declaration.WrittenIn.addMember (h : d.WrittenIn (.module items)) {block : Syntax.Implementation}
    (hblock : .implementation block ∈ items) (hown : block.contract = none) {member : Syntax.Member}
    (hmember : member ∈ block.members) : (member.addTo d).WrittenIn (.module items) := by
  cases member with
  | other trees => exact h
  | function f =>
    refine ⟨h.type, h.isType, h.markers, fun c hc p hp => ?_⟩
    -- The constructor is the one that was there, or is read off the function.
    change c ∈ (d.addMethod (f.method d.type)).constructor at hc
    rw [Declaration.addMethod] at hc
    split at hc
    · exact h.parameters c (by simp_all) p hp
    · split at hc
      next hconstructs =>
        cases hc
        obtain ⟨written, hwritten, rfl⟩ := List.mem_map.mp hp
        change ∃ t : TypeExpr, _ ∧ TypeExpr.replaceSelf ⟨written.type⟩ d.type = t.replaceSelf d.type
        have htype := h.type
        generalize d.type = type at htype hconstructs
        cases htype with
        | definition hd => exact ⟨_, .parameter hd hblock hown hmember hconstructs hwritten, rfl⟩
      · cases hc

theorem Declaration.WrittenIn.addBlock (h : d.WrittenIn (.module items)) {block : Syntax.Implementation}
    (hblock : .implementation block ∈ items) : (block.addTo d).WrittenIn (.module items) := by
  unfold Syntax.Implementation.addTo
  split
  · split
    · exact h
    · exact h.addContract _
  next hown =>
    exact List.foldlRecOn (motive := Declaration.WrittenIn (.module items)) block.members _ h
      fun d hd member hmember => hd.addMember hblock hown hmember

end

/-- Every declaration has its types from its source. -/
theorem Source.Declares.writtenIn {s : Source} {ds : List Declaration} (h : s.Declares ds) :
    ∀ d ∈ ds, d.WrittenIn s := by
  cases s with
  | manifest m =>
    intro d hd
    obtain ⟨e, he, hdeclaration⟩ := exists_rel_of_mem_right (mapM_eq_ok.mp h) hd
    exact TypeEntry.writtenIn he hdeclaration
  | module items =>
    exact forall_of_declarationsOf h.2 (fun _ _ hmem hd => Syntax.Definition.writtenIn hmem hd)
      fun _ _ hmem hd => hd.addBlock hmem

end ServiceContainer
