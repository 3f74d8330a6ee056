import ServiceContainer.Proofs.Hygiene
import ServiceContainer.Proofs.Identifiers

/-!
# The types of a generated module

A module defines four types: two providers, whose names are read from the options, and for each the type that holds its
cells. The options are compared as texts, so that what is read from them can still be one name, or the name of one
provider can be that of the other's cells. Apart from that the four names are different.

## Main statements

* `identifier_stateName` — the type that holds the cells of a provider has a name
* `Container.typeNames_nodup_iff` — when the four names are different
-/

namespace ServiceContainer

open Text Syntax

section

variable {name : String}

/-! ### Names without the mark of raw names -/

theorem toList_unrawName : (unrawName name).toList = afterMark name.toList := by
  unfold unrawName afterMark startsWith
  split
  · exact String.toList_ofList
  · rfl

/-- A word has no mark. -/
theorem unrawName_of_isWord (h : IsWord name.toList) : unrawName name = name := by
  rw [← String.toList_inj, toList_unrawName, afterMark_of_isWord h]

/-- Without the mark a name is a word. -/
theorem isWord_unrawName (h : name? name.toList = some (name, [])) :
    (unrawName name).toList ≠ [] ∧ IsWord (unrawName name).toList := by
  rw [toList_unrawName]
  exact afterWord_eq_nil.mp (name?_eq_self_iff.mp h).1

theorem isWord_stateName (h : name? name.toList = some (name, [])) : IsWord (stateName name).toList := by
  obtain ⟨hne, hword⟩ := isWord_unrawName h
  rw [stateName, String.toList_append]
  have hstate : "State".toList.all isIdentifierContinue = true := by decide
  exact hword.append hne (List.all_eq_true.mp hstate)

/-- The type that holds the cells of a provider has a name. -/
theorem identifier_stateName (h : name? name.toList = some (name, [])) :
    identifier (stateName name) = .ok (stateName name) := by
  have hne : (stateName name).toList ≠ [] := by
    rw [stateName, String.toList_append]
    exact List.append_ne_nil_of_right_ne_nil _ (by decide)
  refine identifier_of_isWord hne (isWord_stateName h) fun hreserved => ?_
  -- No reserved word ends like that.
  have hends : reservedWords.all (fun word => !"State".toList.isSuffixOf word.toList) = true := by decide
  have hnot := List.all_eq_true.mp hends _ hreserved
  rw [Bool.not_eq_true', ← Bool.not_eq_true, List.isSuffixOf_iff_suffix, stateName, String.toList_append] at hnot
  exact hnot (List.suffix_append _ _)

end

/-! ### The four names -/

/-- A text is none of its extensions. -/
theorem ne_append_of_ne_empty {a b : String} (hb : b ≠ "") : a ≠ a ++ b := by
  intro heq
  have hlist := congrArg String.toList heq
  rw [String.toList_append, List.self_eq_append_right, String.toList_eq_nil_iff] at hlist
  exact hb hlist

/-- Two names and their extensions are different when the names are, and neither is the extension of the other. -/
theorem nodup_extended_iff (a b : String) {suffix : String} (hsuffix : suffix ≠ "") :
    [a, a ++ suffix, b, b ++ suffix].Nodup ↔ a ≠ b ∧ a ≠ b ++ suffix ∧ b ≠ a ++ suffix := by
  have ha : a ≠ a ++ suffix := ne_append_of_ne_empty hsuffix
  have hb : b ≠ b ++ suffix := ne_append_of_ne_empty hsuffix
  have hboth : a ++ suffix = b ++ suffix ↔ a = b := String.append_left_inj suffix
  simp only [List.nodup_cons, List.mem_cons, List.not_mem_nil, or_false, not_or, not_false_eq_true, List.nodup_nil,
    and_true, hboth]
  constructor
  · rintro ⟨⟨-, hab, hext⟩, ⟨hext', -⟩, -⟩
    exact ⟨hab, hext, Ne.symm hext'⟩
  · rintro ⟨hab, hext, hext'⟩
    exact ⟨⟨ha, hab, hext⟩, ⟨Ne.symm hext', hab⟩, hb⟩

section

variable {o : Options} {rs : List Registration} {c : Container}

theorem names_ne_of_validate (ho : o.validate = .ok ()) : o.rootName ≠ o.scopedName := by
  unfold Options.validate at ho
  split at ho
  next => cases ho
  next hfault =>
    unfold Options.fault? at hfault
    split at hfault
    next => cases hfault
    next =>
      split at hfault
      next => cases hfault
      next hne => simpa using hne

/-- The types that hold the cells are named after the providers. -/
theorem Container.typeNames_eq (hc : (Container.ofRegistrations o rs).outcome = .ok c) : c.typeNames =
    [c.rootProvider.name, stateName c.rootProvider.name, c.scopedProvider.name, stateName c.scopedProvider.name] := by
  obtain ⟨-, hmade⟩ := Container.ofRegistrations_eq_ok_iff.mp hc
  rw [Container.typeNames, Provider.stateType, Provider.stateType, hmade.root.state, hmade.nested.state]
  rfl

end

/-- The four types of the module have names that are identifiers. Without the mark of raw names these are different
exactly when the providers have different names, of which neither is that of the other's cells; and where the valid
options give the names of the providers as they are, only the names of cells are left to coincide with them. -/
theorem Container.typeNames_nodup_iff {o : Options} {rs : List Registration} {c : Container} (ho : o.validate = .ok ())
    (hc : (Container.ofRegistrations o rs).outcome = .ok c) :
    (∀ name ∈ c.typeNames, identifier name = .ok name) ∧
    ((c.typeNames.map unrawName).Nodup ↔ unrawName c.rootProvider.name ≠ unrawName c.scopedProvider.name ∧
      unrawName c.rootProvider.name ≠ stateName c.scopedProvider.name ∧
      unrawName c.scopedProvider.name ≠ stateName c.rootProvider.name) ∧
    (unrawName c.rootProvider.name = o.rootName → unrawName c.scopedProvider.name = o.scopedName →
      ((c.typeNames.map unrawName).Nodup ↔
        o.rootName ≠ o.scopedName ++ "State" ∧ o.scopedName ≠ o.rootName ++ "State")) := by
  obtain ⟨-, hmade⟩ := Container.ofRegistrations_eq_ok_iff.mp hc
  obtain ⟨hroot, -⟩ := name_of_identifier hmade.root.name
  obtain ⟨hscoped, -⟩ := name_of_identifier hmade.nested.name
  -- The names of the cells are made without the mark, so only the names of the providers can lose one.
  have hstates : (c.typeNames.map unrawName) =
      [unrawName c.rootProvider.name, unrawName c.rootProvider.name ++ "State",
        unrawName c.scopedProvider.name, unrawName c.scopedProvider.name ++ "State"] := by
    rw [Container.typeNames_eq hc, List.map_cons, List.map_cons, List.map_cons, List.map_singleton,
      unrawName_of_isWord (isWord_stateName hroot), unrawName_of_isWord (isWord_stateName hscoped), stateName,
      stateName]
  have hstate : "State" ≠ "" := by decide
  have hnodup := nodup_extended_iff (unrawName c.rootProvider.name) (unrawName c.scopedProvider.name) hstate
  rw [← hstates] at hnodup
  refine ⟨?_, hnodup, fun hrootName hscopedName => ?_⟩
  · rw [Container.typeNames_eq hc]
    simp only [List.forall_mem_cons, List.not_mem_nil, false_imp_iff, implies_true, and_true]
    exact ⟨identifier_of_eq_ok hmade.root.name, identifier_stateName hroot, identifier_of_eq_ok hmade.nested.name,
      identifier_stateName hscoped⟩
  · rw [hnodup, hrootName, hscopedName]
    exact and_iff_right (names_ne_of_validate ho)

/-- With the options that nobody sets the four names are different. -/
theorem Container.typeNames_nodup_iff_trio :
    ∃ c, (Container.ofRegistrations {} Sample.trio).outcome = .ok c ∧ ({} : Options).validate = .ok () ∧
      unrawName c.rootProvider.name = "ServiceProvider" ∧ unrawName c.scopedProvider.name = "ScopedServiceProvider" ∧
      (∀ name ∈ c.typeNames, identifier name = .ok name) ∧ (c.typeNames.map unrawName).Nodup := by
  have hvalid : ({} : Options).validate = .ok () := by decide +kernel
  obtain ⟨c, hc⟩ := Sample.trio_laidOut
  obtain ⟨-, hmade⟩ := Container.ofRegistrations_eq_ok_iff.mp hc
  have hread : (identifier "ServiceProvider").toOption = some "ServiceProvider" ∧
      (identifier "ScopedServiceProvider").toOption = some "ScopedServiceProvider" := by decide +kernel
  have hroot : c.rootProvider.name = "ServiceProvider" := by
    have hname := hread.1
    rw [show identifier "ServiceProvider" = _ from hmade.root.name] at hname
    exact Option.some.inj hname
  have hscoped : c.scopedProvider.name = "ScopedServiceProvider" := by
    have hname := hread.2
    rw [show identifier "ScopedServiceProvider" = _ from hmade.nested.name] at hname
    exact Option.some.inj hname
  have hbare : unrawName c.rootProvider.name = "ServiceProvider" ∧
      unrawName c.scopedProvider.name = "ScopedServiceProvider" := by
    rw [hroot, hscoped]
    decide
  obtain ⟨hread, -, hdifferent⟩ := Container.typeNames_nodup_iff hvalid hc
  exact ⟨c, hc, hvalid, hbare.1, hbare.2, hread, (hdifferent hbare.1 hbare.2).mpr (by decide)⟩

/-- Two options that are different texts and one name. -/
theorem Container.not_typeNames_nodup : ¬ ∀ (o : Options) (rs : List Registration) (c : Container),
    o.validate = .ok () → (Container.ofRegistrations o rs).outcome = .ok c → c.typeNames.Nodup := by
  intro h
  let o : Options := { rootName := "App", scopedName := " App" }
  have hsample : o.validate = .ok () ∧
      ((Container.ofRegistrations o []).outcome.toOption.map Container.typeNames) =
        some ["App", "AppState", "App", "AppState"] := by decide +kernel
  obtain ⟨c, hc, hnames⟩ := Option.map_eq_some_iff.mp hsample.2
  cases hresult : (Container.ofRegistrations o []).outcome with
  | error e =>
    rw [hresult] at hc
    exact nomatch hc
  | ok c' =>
    have hnodup := h o [] c' hsample.1 hresult
    rw [hresult] at hc
    obtain rfl := Option.some.inj hc
    rw [hnames] at hnodup
    exact absurd hnodup (by decide)

end ServiceContainer
