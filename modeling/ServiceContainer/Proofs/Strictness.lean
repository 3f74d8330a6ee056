import ServiceContainer.Proofs.DeclarationOrder

/-!
# Strict markers

A generation where disagreeing markers are an error does the same as one where they are a warning, up to the first such
warning; there it ends with the error that the warning tells of. The two runs are compared part by part: each part
either does the same in both and warns of no conflict, or warns of a first one in the lenient run, where the strict run
ends.

## Main definitions

* `Diagnostic.IsConflict`, `FirstConflict` — the warnings that markers disagree, and the first of them
* `Noted.Tightens` — what a strict computation is to a lenient one

## Main statements

* `Noted.Tightens.bind` — one computation after another
* `compose_tightens` — the whole way from declarations to containers
* `generate_strict` — generations that differ in strictness
-/

namespace ServiceContainer

/-! ### Warnings of conflicts -/

/-- The finding warns that the markers with these texts disagree. -/
def Diagnostic.IsConflict (d : Diagnostic) (sources : String) : Prop :=
  d.severity = .warning ∧ d.message = "存在相互冲突的服务标记，采用第一条: " ++ sources

/-- No finding warns that markers disagree. -/
def Calm (ds : List Diagnostic) : Prop := ∀ d ∈ ds, ∀ sources, ¬ d.IsConflict sources

/-- The finding is the first that warns that markers disagree. -/
def FirstConflict (ds : List Diagnostic) (d : Diagnostic) (sources : String) : Prop :=
  ∃ before after, ds = before ++ d :: after ∧ Calm before ∧ d.IsConflict sources

section

variable {ds es : List Diagnostic} {d : Diagnostic} {sources : String}

theorem calm_nil : Calm [] := fun _ hd => nomatch hd

theorem calm_append : Calm (ds ++ es) ↔ Calm ds ∧ Calm es := List.forall_mem_append

theorem FirstConflict.append (h : FirstConflict ds d sources) (es : List Diagnostic) :
    FirstConflict (ds ++ es) d sources := by
  obtain ⟨before, after, rfl, hbefore, hd⟩ := h
  exact ⟨before, after ++ es, by simp, hbefore, hd⟩

theorem FirstConflict.prepend (h : FirstConflict es d sources) (hds : Calm ds) :
    FirstConflict (ds ++ es) d sources := by
  obtain ⟨before, after, rfl, hbefore, hd⟩ := h
  exact ⟨ds ++ before, after, by simp, calm_append.mpr ⟨hds, hbefore⟩, hd⟩

theorem FirstConflict.not_calm (h : FirstConflict ds d sources) : ¬ Calm ds := by
  obtain ⟨before, after, rfl, -, hd⟩ := h
  exact fun hcalm => hcalm d (by simp) sources hd

theorem Diagnostic.IsConflict.sources_unique {others : String} (h : d.IsConflict sources)
    (h' : d.IsConflict others) : sources = others :=
  String.append_right_inj _ |>.mp (h.2.symm.trans h'.2)

/-- There is one first conflict. -/
theorem FirstConflict.unique {e : Diagnostic} {others : String} (h : FirstConflict ds d sources)
    (h' : FirstConflict ds e others) : d = e ∧ sources = others := by
  obtain ⟨before, after, rfl, hbefore, hd⟩ := h
  obtain ⟨before', after', heq, hbefore', he⟩ := h'
  have hde : d = e := by
    -- One conflict is no later than the other, and is not among the calm findings before it.
    rcases List.append_eq_append_iff.mp heq with ⟨between, rfl, hbetween⟩ | ⟨between, rfl, hbetween⟩
    · cases between with
      | nil => exact (List.cons.inj hbetween).1
      | cons x rest =>
        obtain ⟨rfl, -⟩ := List.cons.inj hbetween
        exact absurd hd (hbefore' d (by simp) sources)
    · cases between with
      | nil => exact (List.cons.inj hbetween).1.symm
      | cons x rest =>
        obtain ⟨rfl, -⟩ := List.cons.inj hbetween
        exact absurd he (hbefore e (by simp) others)
  exact ⟨hde, hd.sources_unique (hde ▸ he)⟩

end

/-! ### Strict and lenient computations -/

/-- The computations are the same and warn of no conflict, or the lenient one warns of a first conflict and the strict
one ends with it. -/
inductive Noted.Tightens {α : Type} (strict lenient : Noted α) : Prop where
  | same (eq : strict = lenient) (calm : Calm lenient.notes)
  | stopped {d : Diagnostic} {sources : String} (first : FirstConflict lenient.notes d sources)
    (error : strict.outcome = .error (.conflictingMarkers d.type sources))

namespace Noted.Tightens

variable {α β : Type} {strict lenient : Noted α} {f g : α → Noted β}

theorem refl {m : Noted α} (h : Calm m.notes) : m.Tightens m := .same rfl h

theorem bind (h : strict.Tightens lenient) (hfg : ∀ x, (f x).Tightens (g x)) :
    (strict >>= f).Tightens (lenient >>= g) := by
  cases h with
  | same eq calm =>
    subst eq
    cases hx : strict.outcome with
    | error e =>
      rw [Noted.bind_error f hx, Noted.bind_error g hx]
      exact .refl calm
    | ok x =>
      rw [Noted.bind_ok f hx, Noted.bind_ok g hx]
      cases hfg x with
      | same eq calm' => exact .same (by rw [eq]) (calm_append.mpr ⟨calm, calm'⟩)
      | stopped first error => exact .stopped (first.prepend calm) error
  | @stopped d sources first error =>
    -- What the lenient computation notes afterwards comes after its first conflict.
    have hfirst : FirstConflict (lenient >>= g).notes d sources := by
      cases hx : lenient.outcome with
      | error e => rwa [Noted.bind_error g hx]
      | ok x =>
        rw [Noted.bind_ok g hx]
        exact first.append _
    exact .stopped hfirst (by rw [Noted.bind_error f error])

end Noted.Tightens

/-! ### The parts of a generation -/

section

variable {α β : Type} {m : Noted α} {f : α → Noted β}

theorem Noted.calm_bind (hm : Calm m.notes) (hf : ∀ x, Calm (f x).notes) : Calm (m >>= f).notes := by
  cases hx : m.outcome with
  | error e => rwa [Noted.bind_error f hx]
  | ok x =>
    rw [Noted.bind_ok f hx]
    exact calm_append.mpr ⟨hm, hf x⟩

theorem Noted.calm_ofExcept (r : Except GenerationError α) : Calm (Noted.ofExcept r).notes := calm_nil

theorem Noted.calm_tell {d : Diagnostic} (hd : ∀ sources, ¬ d.IsConflict sources) : Calm (Noted.tell d).notes :=
  List.forall_mem_singleton.mpr hd

end

theorem calm_chooseFactory (d : Declaration) (ms : List Method) : Calm (chooseFactory d ms).notes := by
  induction ms with
  | nil => exact calm_nil
  | cons m rest ih =>
    rw [chooseFactory]
    split
    · exact calm_nil
    · exact Noted.calm_bind (Noted.calm_tell fun _ h => Severity.noConfusion h.1) fun _ => ih

/-- What is noted about factories is no warning. -/
theorem calm_construction (d : Declaration) : Calm (Construction.ofDeclaration d).notes := by
  refine Noted.calm_bind (calm_chooseFactory d _) fun m => ?_
  cases m with
  | some m => exact calm_nil
  | none =>
    dsimp only
    split
    · exact Noted.calm_bind (Noted.calm_ofExcept _) fun _ => calm_nil
    · exact calm_nil

theorem shadowWarning_not_isConflict {identifier sources : String} {r q : Registration} :
    ¬ (shadowWarning identifier r q).IsConflict sources := by
  rintro ⟨-, hmessage⟩
  have hfirst := congrArg (fun s => s.toList.head?) hmessage
  simp [shadowWarning] at hfirst

theorem calm_warnShadowing (inRoot : List Identified) (rs : List Registration) :
    Calm (warnShadowing inRoot rs).notes := by
  induction rs with
  | nil => exact calm_nil
  | cons r rest ih =>
    refine Noted.calm_bind (Noted.calm_ofExcept _) fun x => ?_
    split
    · exact Noted.calm_bind (Noted.calm_tell fun _ => shadowWarning_not_isConflict) fun _ => ih
    · exact ih

/-- The layout warns of shadowing only. -/
theorem calm_ofRegistrations (o : Options) (rs : List Registration) :
    Calm (Container.ofRegistrations o rs).notes := by
  refine Noted.calm_bind (Noted.calm_ofExcept _) fun _ => Noted.calm_bind ?_ fun _ => calm_nil
  exact Noted.calm_bind (Noted.calm_ofExcept _) fun inRoot => calm_warnShadowing inRoot _

theorem checkConflict_tightens (c : Candidate) : (c.checkConflict true).Tightens (c.checkConflict false) := by
  rw [Candidate.checkConflict, Candidate.checkConflict]
  split
  · exact .stopped (d := c.conflictWarning) ⟨[], [], rfl, calm_nil, rfl, rfl⟩ rfl
  · exact .refl calm_nil

theorem ofCandidate_tightens (c : Candidate) :
    (Registration.ofCandidate true c).Tightens (Registration.ofCandidate false c) := by
  refine .bind (.refl (Noted.calm_ofExcept _)) fun _ => .bind (checkConflict_tightens c) fun _ => .refl ?_
  exact Noted.calm_bind (Noted.calm_ofExcept _) fun _ => Noted.calm_bind (calm_construction _) fun _ => calm_nil

theorem registrations_tightens (cs : List Candidate) :
    (registrations true cs).Tightens (registrations false cs) := by
  induction cs with
  | nil => exact .refl calm_nil
  | cons c rest ih => exact .bind (ofCandidate_tightens c) fun _ => .bind ih fun _ => .refl calm_nil

section

variable (o : Options) (ds : List Declaration)

/-- The options, with disagreeing markers as errors or as warnings. -/
def Options.withStrict (strict : Bool) : Options := { o with strictMarkers := strict }

theorem compose_tightens : (compose (o.withStrict true) ds).Tightens (compose (o.withStrict false) ds) := by
  refine .bind (registrations_tightens _) fun rs => .bind ?_ fun _ => .refl calm_nil
  exact .refl (calm_ofRegistrations (o.withStrict false) rs)

theorem generate_withStrict_eq_error {e : GenerationError} (hvalid : (o.withStrict true).validate = .ok ())
    (h : (compose (o.withStrict true) ds).outcome = .error e) : generate (o.withStrict true) ds = .error e := by
  rw [generate_of_validate hvalid, h]
  rfl

/-- A strict generation does the same as a lenient one that warns of no conflict, and ends with the first conflict that
the lenient one warns of. -/
theorem generate_strict :
    (∀ g, generate (o.withStrict true) ds = .ok g →
      generate (o.withStrict false) ds = .ok g ∧ ∀ d ∈ g.diagnostics, ∀ sources, ¬ d.IsConflict sources) ∧
    ∀ g, generate (o.withStrict false) ds = .ok g →
      (generate (o.withStrict true) ds = .ok g ∨ ∃ e, generate (o.withStrict true) ds = .error e) ∧
      ((∃ e, generate (o.withStrict true) ds = .error e) ↔ ∃ d ∈ g.diagnostics, ∃ sources, d.IsConflict sources) ∧
      ∀ d sources, FirstConflict g.diagnostics d sources →
        generate (o.withStrict true) ds = .error (.conflictingMarkers d.type sources) := by
  -- The options are valid in both or in neither.
  have hvalidate : (o.withStrict true).validate = (o.withStrict false).validate := rfl
  have hnotes {g : Generated} (hg : generate (o.withStrict false) ds = .ok g) :
      g.diagnostics = (compose (o.withStrict false) ds).notes := by
    obtain ⟨-, rs, c, -, rfl⟩ := generate_eq_ok.mp hg
    rfl
  cases compose_tightens o ds with
  | same eq calm =>
    have heq : generate (o.withStrict true) ds = generate (o.withStrict false) ds := by
      rw [generate, generate, hvalidate, eq]
      rfl
    rw [heq]
    refine ⟨fun g hg => ⟨hg, hnotes hg ▸ calm⟩, fun g hg => ?_⟩
    have hcalm : Calm g.diagnostics := hnotes hg ▸ calm
    refine ⟨.inl hg, iff_of_false ?_ ?_, fun d sources hfirst => absurd hcalm hfirst.not_calm⟩
    · rw [hg]
      rintro ⟨e, he⟩
      cases he
    · rintro ⟨d, hd, sources, hconflict⟩
      exact hcalm d hd sources hconflict
  | @stopped d sources first error =>
    refine ⟨fun g hg => ?_, fun g hg => ?_⟩
    · obtain ⟨-, rs, c, hok, -⟩ := generate_eq_ok.mp hg
      rw [error] at hok
      cases hok
    · have herror := generate_withStrict_eq_error o ds (generate_eq_ok.mp hg).1 error
      rw [← hnotes hg] at first
      refine ⟨.inr ⟨_, herror⟩, iff_of_true ⟨_, herror⟩ ?_, fun d' sources' hfirst => ?_⟩
      · obtain ⟨before, after, hdiagnostics, -, hconflict⟩ := first
        exact ⟨d, by simp [hdiagnostics], sources, hconflict⟩
      · obtain ⟨rfl, rfl⟩ := first.unique hfirst
        exact herror

end

/-- The warning that the markers of the clock disagree. -/
def Sample.clockWarning : Diagnostic :=
  ⟨.warning, "Clock", "存在相互冲突的服务标记，采用第一条: " ++ "own [singleton], own [scoped]"⟩

theorem Sample.desk_diagnostics :
    (generate (({} : Options).withStrict false) desk).toOption.map (·.diagnostics) = some [clockWarning] := by
  decide +kernel

theorem generate_strict_desk :
    (∃ g, generate (({} : Options).withStrict false) Sample.desk = .ok g ∧ g.diagnostics = [Sample.clockWarning]) ∧
    generate (({} : Options).withStrict true) Sample.desk =
      .error (.conflictingMarkers "Clock" "own [singleton], own [scoped]") := by
  have hdiagnostics := Sample.desk_diagnostics
  cases hg : generate (({} : Options).withStrict false) Sample.desk with
  | error e =>
    rw [hg] at hdiagnostics
    exact nomatch hdiagnostics
  | ok g =>
    rw [hg] at hdiagnostics
    have hwarning : g.diagnostics = [Sample.clockWarning] := Option.some.inj hdiagnostics
    refine ⟨⟨g, rfl, hwarning⟩, ((generate_strict _ _).2 g hg).2.2 Sample.clockWarning _ ?_⟩
    exact ⟨[], [], hwarning, calm_nil, rfl, rfl⟩

end ServiceContainer
