import ServiceContainer.Proofs.Hygiene
import ServiceContainer.Proofs.KeyNames

/-!
# When a container is refused

Registrations with keys that can be keys are laid out unless two of them have one key, two of one provider have one
identifier, or a name that a member needs is no identifier. The error is that of the first registration that fails: keys
are compared first, then the root provider is made, then the scoped one. For one registration the order is the
collision, the name of its accessor, the name that constructs it, and the name of its cell.

## Main definitions

* `FirstOffence` — the first element of a list that fails after those before it
* `Registration.RepeatsKey`, `Registration.Offends` — how a registration fails after others
* `Registration.names` — the names that the members of a registration need
* `RefusedWith`, `Conflicting` — the error of registrations, and the registrations that have one

## Main statements

* `checkUniqueKeys_eq_error` — the error of a repeated key
* `Provider.addAll_eq_error` — the error of a provider
* `Container.ofRegistrations_refuses` — when there is no container, and the error then
* `Source.Declares.keys` — the keys of registrations are read types that can be keys
-/

namespace ServiceContainer

/-! ### The first offence -/

section FirstOffence

variable {α ε : Type} {offends : List α → α → ε → Prop} {before xs : List α} {x : α} {e : ε}

/-- An element of the list fails after those before the list and in it, of which none in it fails. -/
def FirstOffence (offends : List α → α → ε → Prop) (before xs : List α) (e : ε) : Prop :=
  ∃ passed x after, xs = passed ++ x :: after ∧
    (∀ early y late, passed = early ++ y :: late → ∀ e', ¬ offends (before ++ early) y e') ∧
    offends (before ++ passed) x e

theorem not_firstOffence_nil : ¬ FirstOffence offends before [] e := by
  rintro ⟨passed, x, after, hxs, -⟩
  cases passed <;> cases hxs

theorem firstOffence_cons : FirstOffence offends before (x :: xs) e ↔
    offends before x e ∨ (∀ e', ¬ offends before x e') ∧ FirstOffence offends (before ++ [x]) xs e := by
  constructor
  · rintro ⟨passed, y, after, hxs, hpassed, hy⟩
    cases passed with
    | nil =>
      obtain ⟨rfl, rfl⟩ := List.cons.inj hxs
      exact .inl (by simpa using hy)
    | cons z passed =>
      obtain ⟨rfl, rfl⟩ := List.cons.inj hxs
      refine .inr ⟨by simpa using hpassed [] x passed rfl, passed, y, after, rfl, ?_, by simpa using hy⟩
      rintro early s late rfl
      simpa using hpassed (x :: early) s late rfl
  · rintro (hx | ⟨hx, passed, y, after, rfl, hpassed, hy⟩)
    · exact ⟨[], x, xs, rfl, by simp, by simpa using hx⟩
    · refine ⟨x :: passed, y, after, rfl, ?_, by simpa using hy⟩
      intro early s late hsplit
      cases early with
      | nil =>
        obtain ⟨rfl, -⟩ := List.cons.inj hsplit
        simpa using hx
      | cons z early =>
        obtain ⟨rfl, rfl⟩ := List.cons.inj hsplit
        simpa using hpassed early s late rfl

end FirstOffence

/-- In a list without two elements of one value, the one of a value is found from either end. -/
theorem find?_reverse_eq_some {α β : Type} [DecidableEq β] {f : α → β} {xs : List α} (h : (xs.map f).Nodup) {b : β}
    {x : α} : xs.reverse.find? (f · = b) = some x ↔
      ∃ early late, xs = early ++ x :: late ∧ f x = b ∧ ∀ y ∈ early ++ late, f y ≠ b := by
  constructor
  · intro hfind
    obtain ⟨early, late, rfl⟩ := List.append_of_mem (List.mem_reverse.mp (List.mem_of_find?_eq_some hfind))
    have hx : f x = b := by simpa using List.find?_some hfind
    refine ⟨early, late, rfl, hx, fun y hy heq => ?_⟩
    -- Another element of the value would stand beside the one that was found.
    rw [List.map_append, List.map_cons, List.nodup_middle, List.nodup_cons, ← List.map_append] at h
    exact h.1 (List.mem_map.mpr ⟨y, hy, heq.trans hx.symm⟩)
  · rintro ⟨early, late, rfl, hx, hothers⟩
    cases hfind : (early ++ x :: late).reverse.find? (f · = b) with
    | none =>
      exact absurd (List.find?_eq_none.mp hfind x (by simp)) (by simp [hx])
    | some y =>
      have hy : f y = b := by simpa using List.find?_some hfind
      have hmem := List.mem_reverse.mp (List.mem_of_find?_eq_some hfind)
      rw [List.mem_append, List.mem_cons] at hmem
      rcases hmem with hmem | rfl | hmem
      · exact absurd hy (hothers y (List.mem_append_left _ hmem))
      · rfl
      · exact absurd hy (hothers y (List.mem_append_right _ hmem))

theorem nodup_map_concat {α β : Type} {f : α → β} {xs : List α} {x : α} (h : (xs.map f).Nodup)
    (hx : ∀ y ∈ xs, f y ≠ f x) : ((xs ++ [x]).map f).Nodup := by
  rw [List.map_append, List.map_singleton, ← List.concat_eq_append]
  apply h.concat
  intro hmem
  obtain ⟨y, hy, heq⟩ := List.mem_map.mp hmem
  exact hx y hy heq

/-! ### Repeated keys -/

/-- One registration before has the key of the registration. -/
def Registration.RepeatsKey (before : List Registration) (r : Registration) (e : GenerationError) : Prop :=
  ∃ early first late, before = early ++ first :: late ∧ first.key.display = r.key.display ∧
    (∀ s ∈ early ++ late, s.key.display ≠ r.key.display) ∧
    e = .duplicateKey r.key.display first.implementation.display r.implementation.display

section

variable {before rs : List Registration} {r : Registration} {e : GenerationError}

/-- The error of the registrations of which the second has the key of the first. -/
def repeatError (pair : Registration × Registration) : GenerationError :=
  .duplicateKey pair.2.key.display pair.1.implementation.display pair.2.implementation.display

theorem Registration.repeatsKey_iff (h : (before.map (·.key.display)).Nodup) : r.RepeatsKey before e ↔
    ∃ first, before.reverse.find? (·.key == r.key) = some first ∧ e = repeatError (first, r) := by
  have hfind : ∀ first, before.reverse.find? (·.key == r.key) = some first ↔
      ∃ early late, before = early ++ first :: late ∧ first.key.display = r.key.display ∧
        ∀ s ∈ early ++ late, s.key.display ≠ r.key.display :=
    fun first => find?_reverse_eq_some h
  simp only [hfind]
  constructor
  · rintro ⟨early, first, late, hbefore, hfirst, hothers, rfl⟩
    exact ⟨first, ⟨early, late, hbefore, hfirst, hothers⟩, rfl⟩
  · rintro ⟨first, ⟨early, late, hbefore, hfirst, hothers⟩, rfl⟩
    exact ⟨early, first, late, hbefore, hfirst, hothers, rfl⟩

theorem repeatedKey?_reverse (h : (before.map (·.key.display)).Nodup) :
    (∃ pair, repeatedKey? before.reverse rs = some pair ∧ e = repeatError pair) ↔
      FirstOffence (fun before r => r.RepeatsKey before) before rs e := by
  -- The keys before stay distinct as long as none is repeated, so the one that is found is the only one.
  induction rs generalizing before with
  | nil => exact iff_of_false (by simp [repeatedKey?]) not_firstOffence_nil
  | cons r rest ih =>
    rw [firstOffence_cons, repeatedKey?]
    cases hfind : before.reverse.find? (·.key == r.key) with
    | some first =>
      have hrepeats : ∀ e', r.RepeatsKey before e' ↔ e' = repeatError (first, r) := fun e' => by
        rw [Registration.repeatsKey_iff h, hfind]
        simp
      simp [hrepeats]
    | none =>
      have hrepeats : ∀ e', ¬ r.RepeatsKey before e' := fun e' => by
        rw [Registration.repeatsKey_iff h, hfind]
        simp
      have hnew : ∀ b ∈ before, b.key.display ≠ r.key.display := fun b hb heq =>
        List.find?_eq_none.mp hfind b (List.mem_reverse.mpr hb) (TypeExpr.beq_iff.mpr heq)
      have hrest := ih (nodup_map_concat h hnew)
      rw [List.reverse_append, List.reverse_singleton, List.singleton_append] at hrest
      rw [or_iff_right (hrepeats e), and_iff_right hrepeats]
      exact hrest

/-- The error of the check of keys names the first registration that repeats a key, and the one before it. -/
theorem checkUniqueKeys_eq_error :
    checkUniqueKeys rs = .error e ↔ FirstOffence (fun before r => r.RepeatsKey before) [] rs e := by
  rw [← repeatedKey?_reverse (by simp), checkUniqueKeys]
  cases hpair : repeatedKey? [] rs with
  | none => simp [hpair]
  | some pair => simp [hpair, repeatError, eq_comm]

end

/-! ### Names -/

/-- The text is read as an identifier. -/
def IsIdentifier (text : String) : Prop := ∃ name, identifier text = .ok name

/-- The name of the function that constructs instances, if one does. -/
def Construction.name? : Construction → Option String
  | .factory method => some method
  | .constructor function _ => some function
  | .unitLiteral | .default => none

/-- The names that the members of a registration need, in the order in which they are checked. -/
def Registration.names (r : Registration) (id : String) : List String :=
  accessorName id :: (r.construction.name?.toList ++ if r.lifetime = .transient then [] else [cellName id])

section

variable {r : Registration} {id : String} {e : GenerationError}

theorem identifier_eq_error {text : String} :
    identifier text = .error e ↔ ¬ IsIdentifier text ∧ e = .badIdentifier text := by
  unfold IsIdentifier identifier
  cases Syntax.readIdent? text with
  | none => simp [eq_comm]
  | some name => simp

/-- How instances are made is known when the name of the function that makes them is an identifier. -/
theorem Construct.ofRegistration_names (r : Registration) : (Construct.ofRegistration r).map (fun _ => ()) =
    (r.construction.name?.toList.mapM identifier).map fun _ => () := by
  unfold Construct.ofRegistration
  cases r.construction with
  | factory method =>
    dsimp only [Construction.name?, Option.toList_some]
    rw [List.mapM_cons]
    cases identifier method <;> rfl
  | constructor function arguments =>
    dsimp only [Construction.name?, Option.toList_some]
    rw [List.mapM_cons]
    cases identifier function <;> rfl
  | unitLiteral => rfl
  | default => rfl

/-- A registration has an accessor when all its names are identifiers, which are looked at in their order. -/
theorem Registration.accessorNamed_names (r : Registration) (id : String) :
    (r.accessorNamed id).map (fun _ => ()) = ((r.names id).mapM identifier).map fun _ => () := by
  have hconstruct := Construct.ofRegistration_names r
  unfold Registration.accessorNamed Registration.names
  rw [List.mapM_cons]
  cases identifier (accessorName id) with
  | error e => rfl
  | ok name =>
    rw [List.mapM_append]
    cases hmade : Construct.ofRegistration r with
    | error e =>
      rw [hmade] at hconstruct
      rw [map_eq_error.mp hconstruct.symm]
      rfl
    | ok construct =>
      rw [hmade] at hconstruct
      obtain ⟨made, hmade⟩ := exists_map_eq_ok.mp ⟨(), hconstruct.symm⟩
      rw [hmade]
      by_cases hlifetime : r.lifetime = .transient
      · rw [hlifetime]
        rfl
      · rw [if_neg hlifetime, List.mapM_cons]
        simp only [Lifetime.isMemoized_iff.mpr hlifetime, if_true]
        cases identifier (cellName id) <;> rfl

theorem Registration.accessorNamed_eq_error : r.accessorNamed id = .error e ↔
    FirstFailing IsIdentifier (fun name => ¬ IsIdentifier name ∧ e = .badIdentifier name) (r.names id) := by
  rw [← map_eq_error (f := fun _ => ()), r.accessorNamed_names id, map_eq_error, mapM_eq_error]
  simp only [identifier_eq_error]
  rfl

theorem Registration.exists_accessorNamed :
    (∃ a, r.accessorNamed id = .ok a) ↔ ∀ name ∈ r.names id, IsIdentifier name := by
  rw [← exists_map_eq_ok (f := fun _ => ()), r.accessorNamed_names id, exists_map_eq_ok]
  induction r.names id with
  | nil => simp [pure_eq_ok]
  | cons name rest ih =>
    rw [List.forall_mem_cons, ← ih]
    simp only [List.mapM_cons, bind_eq_ok, pure_eq_ok, IsIdentifier]
    constructor
    · rintro ⟨_, first, hfirst, more, hmore, rfl⟩
      exact ⟨⟨first, hfirst⟩, more, hmore⟩
    · rintro ⟨⟨first, hfirst⟩, more, hmore⟩
      exact ⟨_, first, hfirst, more, hmore, rfl⟩

end

/-! ### Providers -/

/-- The registration fails in a provider after others: one of them has its identifier, or one of its names is no
identifier. -/
inductive Registration.Offends (provider : String) (before : List Registration) (r : Registration) :
    GenerationError → Prop
  | collision {id : String} {early late : List Registration} {first : Registration} (hid : r.identifier? = some id)
    (hbefore : before = early ++ first :: late) (hfirst : first.identifier? = some id)
    (hothers : ∀ s ∈ early ++ late, s.identifier? ≠ some id) :
    Offends provider before r (.identifierCollision id provider first.key.display r.key.display)
  | name {id : String} {e : GenerationError} (hid : r.identifier? = some id)
    (hnew : ∀ s ∈ before, s.identifier? ≠ some id)
    (hname : FirstFailing IsIdentifier (fun name => ¬ IsIdentifier name ∧ e = .badIdentifier name) (r.names id)) :
    Offends provider before r e

/-- The accessor for a registration after others in a provider. -/
def Registration.accept (provider : String) (before : List Registration) (r : Registration) :
    Except GenerationError Accessor := do
  let id ← serviceIdentifier r.key
  match before.reverse.find? (·.identifier? = some id) with
  | some first => throw (.identifierCollision id provider first.key.display r.key.display)
  | none => r.accessorNamed id

section

variable {provider id : String} {before rs : List Registration} {r : Registration} {e : GenerationError}

theorem Registration.accept_eq (hid : serviceIdentifier r.key = .ok id) : r.accept provider before =
    match before.reverse.find? (·.identifier? = some id) with
    | some first => .error (.identifierCollision id provider first.key.display r.key.display)
    | none => r.accessorNamed id := by
  rw [accept, hid, ok_bind]
  rfl

/-- A registration that is not accepted offends. -/
theorem Registration.accept_eq_error (hid : serviceIdentifier r.key = .ok id)
    (h : (before.map Registration.identifier?).Nodup) :
    r.accept provider before = .error e ↔ r.Offends provider before e := by
  have hname := Registration.identifier?_eq_some hid
  rw [accept_eq hid]
  cases hfind : before.reverse.find? (·.identifier? = some id) with
  | some first =>
    constructor
    · intro heq
      cases heq
      obtain ⟨early, late, hbefore, hfirst, hothers⟩ := (find?_reverse_eq_some h).mp hfind
      exact .collision hname hbefore hfirst hothers
    · intro hoffends
      cases hoffends with
      | collision hid' hbefore hfirst hothers =>
        -- The one that was found is the only one of the identifier.
        obtain rfl := Option.some.inj (hname.symm.trans hid')
        rw [(find?_reverse_eq_some h).mpr ⟨_, _, hbefore, hfirst, hothers⟩] at hfind
        rw [Option.some.inj hfind]
      | name hid' hnew hnames =>
        obtain rfl := Option.some.inj (hname.symm.trans hid')
        have hfound : first.identifier? = some id := by simpa using List.find?_some hfind
        exact absurd hfound (hnew first (List.mem_reverse.mp (List.mem_of_find?_eq_some hfind)))
  | none =>
    have hnew : ∀ s ∈ before, s.identifier? ≠ some id := fun s hs heq =>
      List.find?_eq_none.mp hfind s (List.mem_reverse.mpr hs) (by simp [heq])
    dsimp only
    rw [Registration.accessorNamed_eq_error]
    constructor
    · exact .name hname hnew
    · intro hoffends
      cases hoffends with
      | collision hid' hbefore hfirst hothers =>
        obtain rfl := Option.some.inj (hname.symm.trans hid')
        exact absurd hfirst (hnew _ (by simp [hbefore]))
      | name hid' hnew' hnames =>
        obtain rfl := Option.some.inj (hname.symm.trans hid')
        exact hnames

theorem Provider.addAll_cons (p : Provider) (hid : serviceIdentifier r.key = .ok id) (rest : List Registration) :
    p.addAll (before.filterMap Registration.identified?).reverse (r :: rest) =
      r.accept p.name before >>= fun a =>
        (p.push r a).addAll ((before ++ [r]).filterMap Registration.identified?).reverse rest := by
  have hidentified : r.identified? = some ⟨id, r⟩ := (Registration.identified_of_identifier hid).2
  -- What is found among the identified registrations is found among the registrations.
  have hfind : (before.filterMap Registration.identified?).reverse.find? (·.identifier == id) =
      (before.reverse.find? (·.identifier? = some id)).bind Registration.identified? := by
    rw [← List.filterMap_reverse, List.find?_filterMap]
    congr 2
    funext s
    rw [Registration.identified?, Option.any_map]
    cases s.identifier? <;> simp [beq_eq_decide]
  have hbefore : ((before ++ [r]).filterMap Registration.identified?).reverse =
      ⟨id, r⟩ :: (before.filterMap Registration.identified?).reverse := by simp [hidentified]
  rw [Provider.addAll, hid, ok_bind, Registration.accept_eq hid, hbefore, hfind]
  cases hfirst : before.reverse.find? (·.identifier? = some id) with
  | none =>
    dsimp only [Option.bind_none]
    rw [Provider.add_eq]
    cases r.accessorNamed id <;> rfl
  | some first =>
    have hid' : first.identifier? = some id := by simpa using List.find?_some hfirst
    have hidentified' : first.identified? = some ⟨id, first⟩ := by rw [Registration.identified?, hid', Option.map_some]
    rw [Option.bind_some, hidentified']
    rfl

/-- A provider fails with the first registration that offends. -/
theorem Provider.addAll_eq_error {p : Provider} (hprovider : p.name = provider)
    (hids : ∀ r ∈ rs, ∃ id, serviceIdentifier r.key = .ok id) (h : (before.map Registration.identifier?).Nodup) :
    p.addAll (before.filterMap Registration.identified?).reverse rs = .error e ↔
      FirstOffence (fun before r => r.Offends provider before) before rs e := by
  -- What is in the provider are the registrations before, whose identifiers stay distinct.
  induction rs generalizing p before with
  | nil => exact iff_of_false nofun not_firstOffence_nil
  | cons r rest ih =>
    obtain ⟨⟨id, hid⟩, hrest⟩ := List.forall_mem_cons.mp hids
    rw [firstOffence_cons, p.addAll_cons hid, bind_eq_error, hprovider, Registration.accept_eq_error hid h]
    apply or_congr_right
    cases haccept : r.accept provider before with
    | error e' =>
      have hoffends : r.Offends provider before e' := (Registration.accept_eq_error hid h).mp haccept
      exact iff_of_false (by simp) fun hnone => hnone.1 e' hoffends
    | ok a =>
      have hnone : ∀ e', ¬ r.Offends provider before e' := fun e' hoffends => by
        rw [← Registration.accept_eq_error hid h, haccept] at hoffends
        cases hoffends
      have hnew : ∀ s ∈ before, s.identifier? ≠ r.identifier? := by
        rw [Registration.accept_eq hid] at haccept
        split at haccept
        next => cases haccept
        next hfind =>
          intro s hs heq
          rw [Registration.identifier?_eq_some hid] at heq
          exact List.find?_eq_none.mp hfind s (List.mem_reverse.mpr hs) (by simp [heq])
      have hrest := ih (p := p.push r a) hprovider hrest (nodup_map_concat h hnew)
      rw [and_iff_right hnone]
      simpa using hrest

end

/-! ### Options -/

theorem badIdentifier_injective : Function.Injective GenerationError.badIdentifier := by
  intro a b h
  have htext := congrArg String.toList (GenerationError.invalidDeclaration.inj h)
  exact String.toList_inj.mp (by simpa using htext)

theorem badIdentifier_ne_badRuntimePath (name path : String) :
    GenerationError.badIdentifier name ≠ .badRuntimePath path := by
  intro h
  have htext := congrArg String.toList (GenerationError.invalidDeclaration.inj h)
  simp at htext

section

variable {o : Options}

/-- Valid options name what a layout names after them. -/
theorem named_of_validate (h : o.validate = .ok ()) :
    (∀ name ∈ [o.moduleName, o.rootName, o.scopedName], IsIdentifier name) ∧
      ∃ path, runtimePath o.runtimePath = .ok path := by
  have hfault : o.fault? = none := by
    unfold Options.validate at h
    split at h
    · cases h
    · assumption
  unfold Options.fault? at hfault
  split at hfault
  next => cases hfault
  next hnames =>
    split at hfault
    · cases hfault
    · split at hfault
      next => cases hfault
      next hpath =>
        constructor
        · intro name hname
          obtain ⟨entry, hentry, rfl⟩ : ∃ entry ∈ o.names, entry.2 = name := by
            simpa [Options.names, eq_comm] using hname
          have hread := List.find?_eq_none.mp hnames entry hentry
          cases hidentifier : Syntax.readIdent? entry.2 with
          | none => simp [hidentifier] at hread
          | some text => exact ⟨text, by rw [identifier, hidentifier]⟩
        · cases hread : Syntax.readPath? o.runtimePath with
          | none => simp [hread] at hpath
          | some path => exact ⟨path, by rw [runtimePath, hread]⟩

end

/-! ### Layouts -/

/-- Some name that the members of the registration need is no identifier. -/
def Registration.HasBadName (r : Registration) : Prop :=
  ∃ id, r.identifier? = some id ∧ ∃ name ∈ r.names id, ¬ IsIdentifier name

/-- Two registrations have one key, two of one provider have one identifier, or a name is no identifier. -/
def Conflicting (rs : List Registration) : Prop :=
  ¬ (rs.map (·.key.display)).Nodup ∨ ¬ ((rootRegistrations rs).map Registration.identifier?).Nodup ∨
    ¬ ((scopedRegistrations rs).map Registration.identifier?).Nodup ∨ ∃ r ∈ rs, r.HasBadName

/-- The error of registrations with the names of the providers: that of the first repeated key, and without one that of
the first offence in the root provider, and without one that of the first offence in the scoped provider. -/
def RefusedWith (root nested : String) (rs : List Registration) (e : GenerationError) : Prop :=
  FirstOffence (fun before r => r.RepeatsKey before) [] rs e ∨
    (∀ e', ¬ FirstOffence (fun before r => r.RepeatsKey before) [] rs e') ∧
      (FirstOffence (fun before r => r.Offends root before) [] (rootRegistrations rs) e ∨
        (∀ e', ¬ FirstOffence (fun before r => r.Offends root before) [] (rootRegistrations rs) e') ∧
          FirstOffence (fun before r => r.Offends nested before) [] (scopedRegistrations rs) e)

section

variable {o : Options} {rs : List Registration} {root nested : String} {kind : ProviderKind} {text : String}
  {e : GenerationError}

/-- A registration belongs to one of the two providers. -/
theorem forall_mem_registrations {P : Registration → Prop} :
    ((∀ r ∈ rootRegistrations rs, P r) ∧ ∀ r ∈ scopedRegistrations rs, P r) ↔ ∀ r ∈ rs, P r := by
  constructor
  · rintro ⟨hroot, hscoped⟩ r hr
    by_cases hbelongs : r.lifetime.belongsToRoot = true
    · exact hroot r (List.mem_filter.mpr ⟨hr, hbelongs⟩)
    · exact hscoped r (List.mem_filter.mpr ⟨hr, by simpa using hbelongs⟩)
  · intro h
    exact ⟨fun r hr => h r (List.mem_of_mem_filter hr), fun r hr => h r (List.mem_of_mem_filter hr)⟩

theorem Provider.build_eq_error (hname : identifier text = .ok root)
    (hids : ∀ r ∈ rs, ∃ id, serviceIdentifier r.key = .ok id) :
    Provider.build kind text rs = .error e ↔ FirstOffence (fun before r => r.Offends root before) [] rs e := by
  rw [Provider.build, hname, ok_bind]
  have hnone : (([] : List Registration).map Registration.identifier?).Nodup := List.nodup_nil
  exact Provider.addAll_eq_error rfl hids hnone

theorem Container.layOut_eq_error (ho : o.validate = .ok ()) (hroot : identifier o.rootName = .ok root)
    (hscoped : identifier o.scopedName = .ok nested) (hids : ∀ r ∈ rs, ∃ id, serviceIdentifier r.key = .ok id) :
    Container.layOut o rs = .error e ↔
      FirstOffence (fun before r => r.Offends root before) [] (rootRegistrations rs) e ∨
        (∀ e', ¬ FirstOffence (fun before r => r.Offends root before) [] (rootRegistrations rs) e') ∧
          FirstOffence (fun before r => r.Offends nested before) [] (scopedRegistrations rs) e := by
  obtain ⟨hnamed, path, hpath⟩ := named_of_validate ho
  obtain ⟨moduleName, hmodule⟩ := hnamed o.moduleName (by simp)
  obtain ⟨hidsRoot, hidsScoped⟩ := forall_mem_registrations.mpr hids
  have hmade : (∃ p, Provider.build .root o.rootName (rootRegistrations rs) = .ok p) ↔
      ∀ e', ¬ FirstOffence (fun before r => r.Offends root before) [] (rootRegistrations rs) e' := by
    rw [ok_iff_not_error]
    exact forall_congr' fun e' => not_congr (Provider.build_eq_error hroot hidsRoot)
  simp only [Container.layOut, hpath, hmodule, ok_bind, bind_eq_error]
  rw [Provider.build_eq_error hroot hidsRoot, ← hmade, ← Provider.build_eq_error hscoped hidsScoped]
  -- With both providers nothing is left that could fail.
  apply or_congr_right
  constructor
  · rintro ⟨p, hp, herror | ⟨q, -, hnone⟩⟩
    · exact ⟨⟨p, hp⟩, herror⟩
    · cases hnone
  · rintro ⟨⟨p, hp⟩, herror⟩
    exact ⟨p, hp, .inl herror⟩

/-- Registrations whose keys have names are refused with the error of the first that fails. -/
theorem Container.ofRegistrations_eq_error (ho : o.validate = .ok ()) (hroot : identifier o.rootName = .ok root)
    (hscoped : identifier o.scopedName = .ok nested) (hids : ∀ r ∈ rs, ∃ id, serviceIdentifier r.key = .ok id) :
    (Container.ofRegistrations o rs).outcome = .error e ↔ RefusedWith root nested rs e := by
  obtain ⟨hidsRoot, hidsScoped⟩ := forall_mem_registrations.mpr hids
  have hshared := checkSharedIdentifiers_eq hidsRoot hidsScoped
  have hunique : (∃ u, checkUniqueKeys rs = .ok u) ↔
      ∀ e', ¬ FirstOffence (fun before r => r.RepeatsKey before) [] rs e' := by
    rw [ok_iff_not_error]
    exact forall_congr' fun e' => not_congr checkUniqueKeys_eq_error
  rw [Container.ofRegistrations, hshared, Noted.outcome_bind_eq_error, Noted.ofExcept_outcome, checkUniqueKeys_eq_error,
    RefusedWith, ← hunique, ← Container.layOut_eq_error ho hroot hscoped hids]
  apply or_congr_right
  simp only [Noted.outcome_bind_eq_error, Noted.ofExcept_outcome]
  constructor
  · rintro ⟨u, hu, hnone | ⟨_, -, herror⟩⟩
    · cases hnone
    · exact ⟨⟨u, hu⟩, herror⟩
  · rintro ⟨⟨u, hu⟩, herror⟩
    exact ⟨u, hu, .inr ⟨(), trivial, herror⟩⟩

theorem Registration.exists_accessor_iff {r : Registration} (hid : ∃ id, serviceIdentifier r.key = .ok id) :
    (∃ a, r.accessor = .ok a) ↔ ¬ r.HasBadName := by
  obtain ⟨id, hid⟩ := hid
  rw [Registration.accessor_eq hid, Registration.exists_accessorNamed, Registration.HasBadName]
  simp [Registration.identifier?_eq_some hid]

theorem Provider.exists_madeFrom (hname : IsIdentifier text) : (∃ p, Provider.MadeFrom kind text rs p) ↔
    (∀ r ∈ rs, ∃ a, r.accessor = .ok a) ∧ (rs.map Registration.identifier?).Nodup := by
  obtain ⟨name, hname⟩ := hname
  constructor
  · rintro ⟨p, hp⟩
    exact ⟨hp.accessible, hp.distinct⟩
  · rintro ⟨haccessible, hdistinct⟩
    refine ⟨Provider.extend { kind, name, state := some (stateName name) } rs, ?_⟩
    exact ⟨rfl, hname, rfl, haccessible, hdistinct, rfl, rfl, rfl, rfl⟩

/-- Registrations whose keys have names are refused when they conflict. -/
theorem Container.exists_error_iff (ho : o.validate = .ok ())
    (hids : ∀ r ∈ rs, ∃ id, serviceIdentifier r.key = .ok id) :
    (∃ e, (Container.ofRegistrations o rs).outcome = .error e) ↔ Conflicting rs := by
  obtain ⟨hnamed, path, hpath⟩ := named_of_validate ho
  obtain ⟨moduleName, hmodule⟩ := hnamed o.moduleName (by simp)
  have hmade : (∃ c, Container.MadeFrom o rs c) ↔
      (∃ p, Provider.MadeFrom .root o.rootName (rootRegistrations rs) p) ∧
        ∃ p, Provider.MadeFrom .scoped o.scopedName (scopedRegistrations rs) p := by
    constructor
    · rintro ⟨c, hc⟩
      exact ⟨⟨_, hc.root⟩, _, hc.nested⟩
    · rintro ⟨⟨p, hp⟩, q, hq⟩
      exact ⟨⟨moduleName, path, p, q⟩, hmodule, hpath, hp, hq⟩
  have haccessible : ((∀ r ∈ rootRegistrations rs, ∃ a, r.accessor = .ok a) ∧
      ∀ r ∈ scopedRegistrations rs, ∃ a, r.accessor = .ok a) ↔ ¬ ∃ r ∈ rs, r.HasBadName := by
    rw [forall_mem_registrations, not_exists]
    refine forall_congr' fun r => ?_
    rw [not_and]
    exact forall_congr' fun hr => Registration.exists_accessor_iff (hids r hr)
  have hok : (∃ e, (Container.ofRegistrations o rs).outcome = .error e) ↔
      ¬ ∃ c, (Container.ofRegistrations o rs).outcome = .ok c := by
    cases (Container.ofRegistrations o rs).outcome <;> simp
  rw [hok]
  simp only [Container.ofRegistrations_eq_ok_iff, exists_and_left]
  rw [hmade, Provider.exists_madeFrom (hnamed _ (by simp)), Provider.exists_madeFrom (hnamed _ (by simp)), Conflicting,
    ← not_not (a := ∃ r ∈ rs, r.HasBadName), ← haccessible, ← not_and_or, ← not_and_or, ← not_and_or, not_iff_not]
  constructor
  · rintro ⟨hkeys, ⟨hroot, hdistinct⟩, hnested, hdistinct'⟩
    exact ⟨hkeys, hdistinct, hdistinct', hroot, hnested⟩
  · rintro ⟨hkeys, hdistinct, hdistinct', hroot, hnested⟩
    exact ⟨hkeys, ⟨hroot, hdistinct⟩, hnested, hdistinct'⟩

/-- Registrations are refused for a key, for an identifier, or for a name that one of them needs. -/
theorem RefusedWith.cause (h : RefusedWith root nested rs e) :
    (∃ key first second, e = .duplicateKey key first second) ∨
      (∃ id provider first second, e = .identifierCollision id provider first second) ∨
      ∃ r ∈ rs, ∃ id, r.identifier? = some id ∧ ∃ name ∈ r.names id, ¬ IsIdentifier name ∧ e = .badIdentifier name := by
  have hoffends {provider : String} {part : List Registration} (hpart : part ⊆ rs)
      (h : FirstOffence (fun before r => r.Offends provider before) [] part e) :
      (∃ id provider first second, e = .identifierCollision id provider first second) ∨
        ∃ r ∈ rs, ∃ id, r.identifier? = some id ∧
          ∃ name ∈ r.names id, ¬ IsIdentifier name ∧ e = .badIdentifier name := by
    obtain ⟨passed, r, after, rfl, -, hr⟩ := h
    cases hr with
    | collision => exact .inl ⟨_, _, _, _, rfl⟩
    | @name id _ hid _ hname =>
      obtain ⟨front, name, rest, hnames, -, hbad⟩ := hname
      exact .inr ⟨r, hpart (by simp), id, hid, name, by simp [hnames], hbad⟩
  rcases h with ⟨passed, r, after, -, -, hr⟩ | ⟨-, hroot | ⟨-, hscoped⟩⟩
  · obtain ⟨_, _, _, -, -, -, rfl⟩ := hr
    exact .inl ⟨_, _, _, rfl⟩
  · exact .inr (hoffends (List.filter_subset_self _) hroot)
  · exact .inr (hoffends (List.filter_subset_self _) hscoped)

theorem RefusedWith.ne_of_isIdentifier (h : RefusedWith root nested rs e) :
    (∀ key reason, e ≠ .invalidKey key reason) ∧ (∀ cause, e ≠ .config cause) ∧
      (∀ path, e ≠ .badRuntimePath path) ∧ ∀ name, IsIdentifier name → e ≠ .badIdentifier name := by
  rcases h.cause with ⟨_, _, _, rfl⟩ | ⟨_, _, _, _, rfl⟩ | ⟨r, -, id, -, name, -, hbad, rfl⟩
  · exact ⟨nofun, nofun, nofun, nofun⟩
  · exact ⟨nofun, nofun, nofun, nofun⟩
  · exact ⟨nofun, nofun, badIdentifier_ne_badRuntimePath name,
      fun text htext heq => hbad (badIdentifier_injective heq ▸ htext)⟩

/-- When valid options and registrations with written keys that can be keys are refused, and with which error. -/
theorem Container.ofRegistrations_refuses (ho : o.validate = .ok ())
    (hkeys : ∀ r ∈ rs, checkKey r.key = .ok () ∧ r.key.Written) :
    ((∃ e, (Container.ofRegistrations o rs).outcome = .error e) ↔ Conflicting rs) ∧
    ∃ root nested, identifier o.rootName = .ok root ∧ identifier o.scopedName = .ok nested ∧
      ∀ e, ((Container.ofRegistrations o rs).outcome = .error e ↔ RefusedWith root nested rs e) ∧
        ((Container.ofRegistrations o rs).outcome = .error e →
          (∀ key reason, e ≠ .invalidKey key reason) ∧ (∀ cause, e ≠ .config cause) ∧
          (∀ path, e ≠ .badRuntimePath path) ∧
          ∀ name ∈ [o.moduleName, o.rootName, o.scopedName], e ≠ .badIdentifier name) := by
  have hids : ∀ r ∈ rs, ∃ id, serviceIdentifier r.key = .ok id :=
    fun r hr => exists_serviceIdentifier (hkeys r hr).1 (hkeys r hr).2
  have hnamed := (named_of_validate ho).1
  obtain ⟨root, hroot⟩ := hnamed o.rootName (by simp)
  obtain ⟨nested, hscoped⟩ := hnamed o.scopedName (by simp)
  refine ⟨Container.exists_error_iff ho hids, root, nested, hroot, hscoped, fun e => ?_⟩
  have herror := Container.ofRegistrations_eq_error (e := e) ho hroot hscoped hids
  refine ⟨herror, fun h => ?_⟩
  obtain ⟨hkey, hconfig, hpath, hname⟩ := (herror.mp h).ne_of_isIdentifier
  exact ⟨hkey, hconfig, hpath, fun name hmem => hname name (hnamed name hmem)⟩

namespace Sample

/-- Two clocks whose names differ in the case of a letter. -/
def clocks : List Registration := [clock, registered "clock" .singleton .unitLiteral false]

theorem clocks_keys : ∀ r ∈ clocks, checkKey r.key = .ok () ∧ r.key.Written :=
  List.forall_mem_cons.mpr ⟨⟨by decide +kernel, .name "Clock"⟩,
    List.forall_mem_singleton.mpr ⟨by decide +kernel, .name "clock"⟩⟩

/-- The services of the clocks would have one identifier. -/
theorem clocks_refused :
    (Container.ofRegistrations {} clocks).outcome =
      .error (.identifierCollision "clock" "ServiceProvider" "Clock" "clock") := by
  have hsample : (match (Container.ofRegistrations {} clocks).outcome with
      | .error e => e == .identifierCollision "clock" "ServiceProvider" "Clock" "clock"
      | .ok _ => false) = true := by decide +kernel
  split at hsample
  next e he => rw [he, beq_iff_eq.mp hsample]
  next => cases hsample

end Sample

theorem Container.ofRegistrations_refuses_clocks :
    ({} : Options).validate = .ok () ∧ (∀ r ∈ Sample.clocks, checkKey r.key = .ok () ∧ r.key.Written) ∧
    Conflicting Sample.clocks ∧
    ∃ root nested, RefusedWith root nested Sample.clocks
      (.identifierCollision "clock" "ServiceProvider" "Clock" "clock") := by
  have hvalid : ({} : Options).validate = .ok () := by decide +kernel
  obtain ⟨hconflict, root, nested, -, -, herror⟩ := Container.ofRegistrations_refuses hvalid Sample.clocks_keys
  exact ⟨hvalid, Sample.clocks_keys, hconflict.mp ⟨_, Sample.clocks_refused⟩, root, nested,
    (herror _).1.mp Sample.clocks_refused⟩

end

/-! ### Keys of sources -/

section

variable {s : Source} {ds : List Declaration} {o : Options} {rs : List Registration} {t : TypeExpr}

theorem markerArgument_written {level : Nat} {marker m : Marker} {word : String} {trees rest : List Syntax.Tree}
    (hmarker : ∀ t ∈ marker.key, t.Written)
    (h : markerArgumentsUpTo.argument (.upTo level) marker word trees = .ok (m, rest)) : ∀ t ∈ m.key, t.Written := by
  unfold markerArgumentsUpTo.argument at h
  split at h
  · split at h
    · cases h
    · split at h
      · cases h
      · split at h
        next hread =>
          cases h
          intro t ht
          obtain rfl := Option.mem_some.mp ht
          exact .read hread
        next => cases h
  · split at h
    · cases h
    · cases h
      exact hmarker

theorem markerArgumentsUpTo_written {level fuel : Nat} {marker m : Marker} {trees : List Syntax.Tree}
    (hmarker : ∀ t ∈ marker.key, t.Written)
    (h : markerArgumentsUpTo (.upTo level) marker fuel trees = .ok m) : ∀ t ∈ m.key, t.Written := by
  induction fuel generalizing marker trees with
  | zero => cases h
  | succ fuel ih =>
    rw [markerArgumentsUpTo] at h
    split at h
    · cases h
      exact hmarker
    · split at h
      · cases h
      next word rest hword =>
        obtain ⟨⟨marker', rest'⟩, hargument, h⟩ := bind_eq_ok.mp h
        have hmarker' := markerArgument_written hmarker hargument
        dsimp only at h
        split at h
        · cases h
          exact hmarker'
        · split at h
          · exact ih hmarker' h
          · cases h

/-- The key of a marker is a type that was read. -/
theorem Marker.written_of_ofAttribute {body : Syntax.AttributeBody} {m : Marker} (h : Marker.ofAttribute body = .ok m) :
    ∀ t ∈ m.key, t.Written := by
  unfold Marker.ofAttribute at h
  split at h
  · cases h
    simp
  · exact markerArgumentsUpTo_written (by simp) h
  · cases h

/-- Keys and declared types are written types. -/
theorem Source.Writes.written {p : Place} (h : s.Writes p t) (hp : p ≠ .argument) : t.Written := by
  cases h with
  | entry _ ht => exact TypeExpr.written_of_ofText ht
  | entryKey _ _ _ ht => exact TypeExpr.written_of_ofText ht
  | entryParameter => exact absurd rfl hp
  | definition => exact .name _
  | «attribute» _ _ _ hk ht => exact Marker.written_of_ofAttribute hk _ ht
  | parameter => exact absurd rfl hp

/-- The key of a registration is that of a marker of some declaration, or the declared type. -/
theorem Source.Declares.exists_writes_key (hs : s.Declares ds)
    (hrs : (registrations o.strictMarkers (candidates ds)).outcome = .ok rs) :
    ∀ r ∈ rs, ∃ p ≠ Place.argument, s.Writes p r.key := by
  intro r hr
  obtain ⟨candidate, hcandidate, hregistered⟩ := exists_rel_of_mem_right (registrations_eq_ok.mp hrs) hr
  obtain ⟨d, hd, hsome⟩ := List.mem_filterMap.mp hcandidate
  obtain ⟨rfl, hmarked⟩ := ofDeclaration?_eq_some hsome
  have hsource : candidate.primary ∈ markerSources ds candidate.declaration :=
    markedBy_iff.mp hmarked ▸ List.mem_cons_self
  rw [hregistered.key, Declaration.keyFrom]
  cases hmarker : candidate.primary.marker.key with
  | none => exact ⟨_, by decide, (hs.writtenIn _ hd).type⟩
  | some key =>
    obtain ⟨d', hd', hmem⟩ := exists_declaration_of_markerSources hd hsource
    exact ⟨_, by decide, (hs.writtenIn d' hd').markers _ hmem key hmarker⟩

/-- The keys of registrations are written types that can be keys, whatever source they come from. -/
theorem Source.Declares.keys (hs : s.Declares ds)
    (hrs : (registrations o.strictMarkers (candidates ds)).outcome = .ok rs) :
    ∀ r ∈ rs, checkKey r.key = .ok () ∧ r.key.Written := by
  intro r hr
  obtain ⟨candidate, -, hregistered⟩ := exists_rel_of_mem_right (registrations_eq_ok.mp hrs) hr
  obtain ⟨p, hp, hwrites⟩ := hs.exists_writes_key hrs r hr
  exact ⟨checkKey_eq_ok.mpr (hregistered.key ▸ hregistered.valid), hwrites.written hp⟩

end

end ServiceContainer
