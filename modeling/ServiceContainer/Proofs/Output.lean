import ServiceContainer.CommandLine
import ServiceContainer.Proofs.FileWriting

/-!
# What productions leave of files

A production reads files, and whether it succeeds is settled before anything is written. So a production that fails
leaves all files as they are. One that succeeds leaves its text where it was to go; once that is there, the same
production finds it, and changes nothing. The program and the step of a build do the same.

## Main definitions

* `Request.Fails`, `Request.Yields` — the ends of a production, by its four stages
* `FileTree.optionPlaces` — where an option file is looked for
* `Request.Apart` — a path is none of those that a production looks at

## Main statements

* `Request.produce_sameBut` — a production succeeds again after a change of a file that it does not look at
* `output_all_or_nothing` — what productions leave of files
-/

namespace ServiceContainer

variable {r : Request} {environment : List (String × String)} {t u : FileTree} {place : List String} {path : String}

/-! ### The ends of a production -/

/-- A production fails at one of its stages: those before it have succeeded. -/
inductive Request.Fails (r : Request) (environment : List (String × String)) (t : FileTree) : Failure → Prop
  | manifest {e : ConfigError} (hm : t.manifest r.manifest = .error e) :
      r.Fails environment t (.manifest r.manifest e)
  | options {m : Manifest} {e : ConfigError} (hm : t.manifest r.manifest = .ok m)
      (ho : Options.load m.options r.optionFile environment t = .error e) : r.Fails environment t (.options e)
  | declarations {m : Manifest} {o : Options} {e : GenerationError} (hm : t.manifest r.manifest = .ok m)
      (ho : Options.load m.options r.optionFile environment t = .ok o) (hd : m.declarations = .error e) :
      r.Fails environment t (.declarations e)
  | generation {m : Manifest} {o : Options} {ds : List Declaration} {e : GenerationError}
      (hm : t.manifest r.manifest = .ok m) (ho : Options.load m.options r.optionFile environment t = .ok o)
      (hd : m.declarations = .ok ds) (hg : generate (r.override o) ds = .error e) :
      r.Fails environment t (.generation r.manifest e)

/-- A production yields a container: all of its stages succeed. -/
def Request.Yields (r : Request) (environment : List (String × String)) (t : FileTree) (g : Generated) : Prop :=
  ∃ m o ds, t.manifest r.manifest = .ok m ∧ Options.load m.options r.optionFile environment t = .ok o ∧
    m.declarations = .ok ds ∧ generate (r.override o) ds = .ok g

theorem Request.produce_eq_ok {g : Generated} : r.produce environment t = .ok g ↔ r.Yields environment t g := by
  rw [produce, Yields]
  simp only [bind_eq_ok, mapError_eq_ok]
  constructor
  · rintro ⟨m, hm, o, ho, ds, hds, hg⟩
    exact ⟨m, o, ds, hm, ho, hds, hg⟩
  · rintro ⟨m, o, ds, hm, ho, hds, hg⟩
    exact ⟨m, hm, o, ho, ds, hds, hg⟩

theorem Request.produce_eq_error {f : Failure} : r.produce environment t = .error f ↔ r.Fails environment t f := by
  rw [produce]
  simp only [bind_eq_error, mapError_eq_ok, mapError_eq_error]
  constructor
  · rintro (⟨e, hm, rfl⟩ | ⟨m, hm, ⟨e, ho, rfl⟩ | ⟨o, ho, ⟨e, hds, rfl⟩ | ⟨ds, hds, e, hg, rfl⟩⟩⟩)
    · exact .manifest hm
    · exact .options hm ho
    · exact .declarations hm ho hds
    · exact .generation hm ho hds hg
  · intro h
    cases h with
    | manifest hm => exact .inl ⟨_, hm, rfl⟩
    | options hm ho => exact .inr ⟨_, hm, .inl ⟨_, ho, rfl⟩⟩
    | declarations hm ho hd => exact .inr ⟨_, hm, .inr ⟨_, ho, .inl ⟨_, hd, rfl⟩⟩⟩
    | generation hm ho hd hg => exact .inr ⟨_, hm, .inr ⟨_, ho, .inr ⟨_, hd, _, hg, rfl⟩⟩⟩

/-- Every production comes to one of its ends. -/
theorem Request.fails_or_yields (r : Request) (environment : List (String × String)) (t : FileTree) :
    (∃ f, r.Fails environment t f) ∨ ∃ g, r.Yields environment t g := by
  cases hproduce : r.produce environment t with
  | error f => exact .inl ⟨f, produce_eq_error.mp hproduce⟩
  | ok g => exact .inr ⟨g, produce_eq_ok.mp hproduce⟩

/-! ### What a production looks at -/

namespace FileTree

/-- The files that are looked for one after another until there is one. -/
def lookedAt (t : FileTree) : List (List String × FileFormat) → List (List String)
  | [] => []
  | (place, _) :: rest => place :: if t.hasFileAlong place then [] else t.lookedAt rest

/-- Where an option file is looked for: at its path, and where there is none, at those that the path stands for. -/
def optionPlaces (t : FileTree) (path : String) : List (List String) :=
  steps path :: if t.hasFile path then [] else t.lookedAt (optionFilesFor path)

end FileTree

/-- The steps to all files that a production looks at. -/
def Request.inputs (r : Request) (t : FileTree) : List (List String) :=
  steps r.manifest :: (r.optionFile.map t.optionPlaces).getD []

/-- A path names none of the places where a production looks for files. -/
def Request.Apart (r : Request) (t : FileTree) (out : String) : Prop :=
  ∀ input ∈ r.inputs t, placeOf? input ≠ placeOf? (steps out)

instance (r : Request) (t : FileTree) (out : String) : Decidable (r.Apart t out) :=
  inferInstanceAs (Decidable (∀ input ∈ r.inputs t, placeOf? input ≠ placeOf? (steps out)))

namespace FileTree

theorem SameBut.read?_eq_some {text : String} (h : t.SameBut place u) (hread : t.read? path = some text)
    (hne : placeOf? (steps path) ≠ some place) : u.read? path = some text := by
  rw [read?, Option.ite_none_left_eq_some] at hread ⊢
  refine hread.imp_right fun htext => ?_
  obtain ⟨q, hq, -⟩ := Option.bind_eq_some_iff.mp htext
  rw [(h.along_eq hq hne).2, htext]

theorem follow?_of_hasFile (h : t.hasFile path = true) : ∃ q, t.follow? [] (steps path) = some q := by
  rw [hasFile, Bool.and_eq_true, hasFileAlong, Option.any_eq_true] at h
  obtain ⟨q, hq, -⟩ := h.2
  exact ⟨q, hq⟩

theorem follow?_of_holds (h : t.holds path = true) : ∃ q, t.follow? [] (steps path) = some q := by
  rw [holds, Bool.or_eq_true, Bool.and_eq_true, Option.any_eq_true] at h
  obtain h | ⟨-, q, hq, -⟩ := h
  · exact follow?_of_hasFile h
  · exact ⟨q, hq⟩

theorem SameBut.hasFile_eq (h : t.SameBut place u) (hpath : t.holds path = true)
    (hne : placeOf? (steps path) ≠ some place) : u.hasFile path = t.hasFile path := by
  obtain ⟨q, hq⟩ := follow?_of_holds hpath
  rw [hasFile, hasFile, (h.along_eq hq hne).1]

theorem SameBut.holds_of (h : t.SameBut place u) (hpath : t.holds path = true)
    (hne : placeOf? (steps path) ≠ some place) : u.holds path = true := by
  obtain ⟨q, hq⟩ := follow?_of_holds hpath
  rw [holds, h.hasFile_eq hpath hne, follow?_of_folders h.folders hq]
  rw [holds, hq] at hpath
  simp only [Option.any_some, Bool.or_eq_true, Bool.and_eq_true] at hpath ⊢
  exact hpath.imp_right fun hfolder => hfolder.imp_right (h.folders q)

/-- A manifest that could be read is read again. -/
theorem SameBut.manifest_eq_ok {m : Manifest} (h : t.SameBut place u) (hm : t.manifest path = .ok m)
    (hne : placeOf? (steps path) ≠ some place) : u.manifest path = .ok m := by
  rw [manifest] at hm ⊢
  cases hholds : t.holds path with
  | false => simp [hholds] at hm
  | true =>
    rw [hholds, Bool.not_true, if_neg Bool.false_ne_true] at hm
    rw [h.holds_of hholds hne, Bool.not_true, if_neg Bool.false_ne_true]
    cases hread : t.read? path with
    | none => simp [hread] at hm
    | some text =>
      rw [hread] at hm
      rw [h.read?_eq_some hread hne]
      exact hm

/-- Beside a path that can be followed stand the files that it stands for. -/
theorem follow?_of_optionFilesFor {q : List String} (hq : t.follow? [] (steps path) = some q)
    {file : List String × FileFormat} (hfile : file ∈ optionFilesFor path) : ∃ p, t.follow? [] file.1 = some p := by
  rw [optionFilesFor] at hfile
  split at hfile
  · exact nomatch hfile
  next name hname =>
    split at hfile
    · exact nomatch hfile
    next hback =>
      obtain ⟨⟨extension, format⟩, hformat, rfl⟩ := List.mem_map.mp hfile
      rw [← steps_eq_concat hname, follow?_append] at hq
      obtain ⟨p, hp, hlast⟩ := Option.bind_eq_some_iff.mp hq
      have hfolder : t.isFolder p = true := (follow?_cons_eq_some.mp hlast).1
      have hlong : 3 ≤ extension.length := (by decide : ∀ f ∈ fileFormats, 3 ≤ f.1.length) _ hformat
      have hne : (name ++ "." ++ extension == "..") = false := by
        rw [beq_eq_false_iff_ne]
        intro heq
        have hlength := congrArg String.length heq
        simp only [String.length_append] at hlength
        have htwo : "..".length = 2 := by decide
        omega
      refine ⟨p ++ [name ++ "." ++ extension], ?_⟩
      dsimp only
      rw [follow?_append, hp, Option.bind_some, follow?, hfolder, hne]
      rfl

theorem SameBut.find?_eq (h : t.SameBut place u) {files : List (List String × FileFormat)}
    (hfollow : ∀ file ∈ files, ∃ p, t.follow? [] file.1 = some p)
    (hne : ∀ input ∈ t.lookedAt files, placeOf? input ≠ some place) :
    (files.find? fun file => u.hasFileAlong file.1) = files.find? fun file => t.hasFileAlong file.1 := by
  -- The search ends at the same file, because all that it passes are the same.
  induction files with
  | nil => rfl
  | cons file rest ih =>
    obtain ⟨hfile, hrest⟩ := List.forall_mem_cons.mp hfollow
    obtain ⟨p, hp⟩ := hfile
    rw [lookedAt, List.forall_mem_cons] at hne
    rw [List.find?_cons, List.find?_cons, (h.along_eq hp hne.1).1]
    cases hhas : t.hasFileAlong file.1 with
    | true => rfl
    | false =>
      refine ih hrest ?_
      simpa [hhas] using hne.2

theorem mem_lookedAt_of_find? {files : List (List String × FileFormat)} {file : List String × FileFormat}
    (h : (files.find? fun file => t.hasFileAlong file.1) = some file) : file.1 ∈ t.lookedAt files := by
  induction files with
  | nil => exact nomatch h
  | cons first rest ih =>
    rw [List.find?_cons] at h
    rw [lookedAt]
    cases hhas : t.hasFileAlong first.1 with
    | true =>
      rw [hhas] at h
      obtain rfl := Option.some.inj h
      exact List.mem_cons_self
    | false =>
      rw [hhas] at h
      exact List.mem_cons_of_mem _ (by simpa using ih h)

/-- An option file that could be read is found and read again. -/
theorem SameBut.optionFile?_eq_some {file : FileFormat × String} (h : t.SameBut place u) (hholds : t.holds path = true)
    (hfile : t.optionFile? path = some file) (hne : ∀ input ∈ t.optionPlaces path, placeOf? input ≠ some place) :
    u.optionFile? path = some file := by
  rw [optionPlaces, List.forall_mem_cons] at hne
  obtain ⟨hpath, hne⟩ := hne
  rw [optionFile?] at hfile ⊢
  rw [h.hasFile_eq hholds hpath]
  cases hhas : t.hasFile path with
  | true =>
    rw [hhas, if_pos rfl] at hfile
    rw [if_pos rfl]
    simp only [Option.bind_eq_bind, Option.bind_eq_some_iff] at hfile ⊢
    obtain ⟨format, hformat, text, htext, hpure⟩ := hfile
    exact ⟨format, hformat, text, h.read?_eq_some htext hpath, hpure⟩
  | false =>
    rw [hhas, if_neg Bool.false_ne_true] at hfile
    simp only [hhas, Bool.false_eq_true, if_false] at hne ⊢
    simp only [Option.bind_eq_bind, Option.bind_eq_some_iff] at hfile ⊢
    obtain ⟨found, hfound, text, htext, hpure⟩ := hfile
    obtain ⟨q, hq⟩ := follow?_of_holds hholds
    have hfollow : ∀ file ∈ optionFilesFor path, ∃ p, t.follow? [] file.1 = some p := fun _ hmem =>
      follow?_of_optionFilesFor hq hmem
    obtain ⟨p, hp⟩ := hfollow found (List.mem_of_find?_eq_some hfound)
    refine ⟨found, (h.find?_eq hfollow hne).trans hfound, text, ?_, hpure⟩
    rw [(h.along_eq hp (hne _ (mem_lookedAt_of_find? hfound))).2, htext]

theorem SameBut.optionEntries_eq_ok {entries : List (String × Document)} (h : t.SameBut place u)
    (hentries : t.optionEntries path = .ok entries)
    (hne : ∀ input ∈ t.optionPlaces path, placeOf? input ≠ some place) : u.optionEntries path = .ok entries := by
  rw [optionEntries] at hentries ⊢
  cases hholds : t.holds path with
  | false => simp [hholds] at hentries
  | true =>
    rw [hholds, Bool.not_true, if_neg Bool.false_ne_true] at hentries
    rw [h.holds_of hholds (hne _ List.mem_cons_self), Bool.not_true, if_neg Bool.false_ne_true]
    cases hfile : t.optionFile? path with
    | none => simp [hfile] at hentries
    | some file =>
      rw [hfile] at hentries
      rw [h.optionFile?_eq_some hholds hfile hne]
      exact hentries

end FileTree

/-! ### The same production again -/

/-- Options that could be loaded are loaded again. -/
theorem Options.load_sameBut {base o : Options} {file? : Option String} (h : t.SameBut place u)
    (ho : Options.load base file? environment t = .ok o)
    (hne : ∀ input ∈ (file?.map t.optionPlaces).getD [], placeOf? input ≠ some place) :
    Options.load base file? environment u = .ok o := by
  cases file? with
  | none => exact ho
  | some path =>
    rw [load, bind_eq_ok] at ho ⊢
    obtain ⟨entries, hentries, hrest⟩ := ho
    exact ⟨entries, h.optionEntries_eq_ok hentries hne, hrest⟩

/-- A production yields the same again when a file has changed that it does not look at. -/
theorem Request.Yields.sameBut {g : Generated} (hg : r.Yields environment t g) (h : t.SameBut place u)
    (hne : ∀ input ∈ r.inputs t, placeOf? input ≠ some place) : r.Yields environment u g := by
  rw [inputs, List.forall_mem_cons] at hne
  obtain ⟨m, o, ds, hm, ho, hds, hgen⟩ := hg
  exact ⟨m, o, ds, h.manifest_eq_ok hm hne.1, Options.load_sameBut h ho hne.2, hds, hgen⟩

/-! ### Writing what was produced -/

theorem FileTree.output_eq_ok {text : String} {changed : Bool} (h : t.output path text = (u, .ok changed)) :
    ∃ place, placeOf? (steps path) = some place ∧ t.SameBut place u ∧ u.read? path = some text := by
  rw [output] at h
  split at h <;> obtain ⟨rfl, hresult⟩ := Prod.mk.inj h
  next hwrite => exact write_accepted hwrite nofun
  next hwrite => exact write_accepted hwrite nofun
  next => exact nomatch hresult

/-- A text that stands in the file already is not written. -/
theorem FileTree.output_of_read? {text : String} (h : t.read? path = some text) :
    t.output path text = (t, .ok false) := by
  rw [output, write, h, beq_self_eq_true, if_pos rfl]

/-- What was produced and put out is produced again, and stands there already. -/
theorem Request.Yields.again {g : Generated} {text : String} {changed : Bool} (hg : r.Yields environment t g)
    (hout : t.output path text = (u, .ok changed)) (hapart : r.Apart t path) :
    r.Yields environment u g ∧ u.output path text = (u, .ok false) := by
  obtain ⟨place, hplace, hsame, hread⟩ := FileTree.output_eq_ok hout
  refine ⟨hg.sameBut hsame fun input hinput => ?_, FileTree.output_of_read? hread⟩
  rw [← hplace]
  exact hapart input hinput

/-! ### Builds and the program -/

variable {manifest out : String} {arguments : List String} {a : Arguments} {f : Failure} {g : Generated}

theorem build_of_fails (h : ({ manifest } : Request).Fails environment t f) :
    build manifest out environment t = (t, ⟨dependencyLines manifest, .error f⟩) := by
  rw [build, Request.produce_eq_error.mpr h]

theorem build_of_yields (h : ({ manifest } : Request).Yields environment t g) :
    build manifest out environment t = ((t.output out g.source).1,
      ⟨dependencyLines manifest ++ findingLines g.diagnostics, (t.output out g.source).2.map (g, ·)⟩) := by
  rw [build, Request.produce_eq_ok.mpr h]

/-- A build that succeeds has put out what its production yields. -/
theorem build_eq_ok {lines : List String} {changed : Bool} :
    build manifest out environment t = (u, ⟨lines, .ok (g, changed)⟩) ↔
      ({ manifest } : Request).Yields environment t g ∧ t.output out g.source = (u, .ok changed) ∧
        lines = dependencyLines manifest ++ findingLines g.diagnostics := by
  cases hproduce : ({ manifest } : Request).produce environment t with
  | error f =>
    have hfails := Request.produce_eq_error.mp hproduce
    rw [build_of_fails hfails, ← Request.produce_eq_ok, hproduce]
    simp
  | ok g' =>
    have hyields := Request.produce_eq_ok.mp hproduce
    rw [build_of_yields hyields, ← Request.produce_eq_ok, hproduce]
    constructor
    · intro h
      obtain ⟨rfl, hresult⟩ := Prod.mk.inj h
      obtain ⟨rfl, houtcome⟩ := BuildResult.mk.inj hresult
      cases hwritten : (t.output out g'.source).2 with
      | error f => simp [hwritten, Except.map] at houtcome
      | ok changed' =>
        rw [hwritten] at houtcome
        obtain ⟨rfl, rfl⟩ := Prod.mk.inj (Except.ok.inj houtcome)
        exact ⟨rfl, Prod.ext rfl hwritten, rfl⟩
    · rintro ⟨hg, houtput, rfl⟩
      obtain rfl := Except.ok.inj hg
      rw [houtput]
      rfl

/-- The program does what its arguments ask for. -/
theorem run_eq (ha : Invocation.ofList arguments = .run a) : run arguments environment t = a.run environment t := by
  rw [run, ha]

theorem run_of_fails (ha : Invocation.ofList arguments = .run a) (h : a.request.Fails environment t f) :
    run arguments environment t = (t, .failure f) := by
  rw [run_eq ha, Arguments.run, Request.produce_eq_error.mpr h]

/-- Without a file to write, the program puts out what is produced, and changes nothing. -/
theorem run_of_output_none (ha : Invocation.ofList arguments = .run a) (hout : a.output = none)
    (h : a.request.Yields environment t g) : run arguments environment t = (t, .success (a.emission.text g)) := by
  rw [run_eq ha, Arguments.run, Request.produce_eq_ok.mpr h, hout]

/-- How the program ends with what came of a file. -/
def Ending.ofOutcome {α : Type} : Except Failure α → Ending
  | .ok _ => .success ""
  | .error f => .failure f

theorem run_of_output_some (ha : Invocation.ofList arguments = .run a) (hout : a.output = some out)
    (h : a.request.Yields environment t g) : run arguments environment t =
      ((t.output out (a.emission.text g)).1, .ofOutcome (t.output out (a.emission.text g)).2) := by
  rw [run_eq ha, Arguments.run, Request.produce_eq_ok.mpr h, hout]
  dsimp only
  split <;> next houtput => rw [houtput]; rfl

/-- The program succeeds with a file to write as soon as what is produced can be written. -/
theorem run_eq_success {text : String} (ha : Invocation.ofList arguments = .run a) (hout : a.output = some out) :
    run arguments environment t = (u, .success text) ↔
      text = "" ∧ ∃ g changed, a.request.Yields environment t g ∧
        t.output out (a.emission.text g) = (u, .ok changed) := by
  cases hproduce : a.request.produce environment t with
  | error f =>
    rw [run_of_fails ha (Request.produce_eq_error.mp hproduce)]
    simp [← Request.produce_eq_ok, hproduce]
  | ok g =>
    rw [run_of_output_some ha hout (Request.produce_eq_ok.mp hproduce)]
    simp only [← Request.produce_eq_ok, hproduce, Except.ok.injEq]
    constructor
    · intro h
      obtain ⟨hu, hending⟩ := Prod.mk.inj h
      cases hwritten : (t.output out (a.emission.text g)).2 with
      | error f => exact nomatch hwritten ▸ hending
      | ok changed =>
        rw [hwritten] at hending
        exact ⟨(Ending.success.inj hending).symm, g, changed, rfl, Prod.ext hu hwritten⟩
    · rintro ⟨rfl, g', changed, rfl, houtput⟩
      rw [houtput]
      rfl

/-- Asked for the container of a manifest in a file, the program does what a build does. -/
theorem run_eq_build (ha : Invocation.ofList arguments = .run a) (hrequest : a.request = { manifest })
    (hemission : a.emission = .source) (hout : a.output = some out) : run arguments environment t =
      ((build manifest out environment t).1, .ofOutcome (build manifest out environment t).2.outcome) := by
  cases hproduce : ({ manifest } : Request).produce environment t with
  | error f =>
    have hfails := Request.produce_eq_error.mp hproduce
    rw [build_of_fails hfails, run_of_fails ha (hrequest ▸ hfails)]
    rfl
  | ok g =>
    have hyields := Request.produce_eq_ok.mp hproduce
    rw [build_of_yields hyields, run_of_output_some ha hout (hrequest ▸ hyields), hemission, Emission.text]
    cases (t.output out g.source).2 <;> rfl

/-- Asked for the container of a manifest without a file, the program ends as the production does. -/
theorem run_eq_iff_of_output_none (ha : Invocation.ofList arguments = .run a) (hrequest : a.request = { manifest })
    (hemission : a.emission = .source) (hout : a.output = none) :
    (∀ text, run arguments environment t = (t, .success text) ↔
      ∃ g, ({ manifest } : Request).Yields environment t g ∧ text = g.source) ∧
    (∀ f, run arguments environment t = (t, .failure f) ↔ ({ manifest } : Request).Fails environment t f) := by
  simp only [← Request.produce_eq_ok, ← Request.produce_eq_error]
  cases hproduce : ({ manifest } : Request).produce environment t with
  | error f =>
    rw [run_of_fails ha (hrequest ▸ Request.produce_eq_error.mp hproduce)]
    simp
  | ok g =>
    rw [run_of_output_none ha hout (hrequest ▸ Request.produce_eq_ok.mp hproduce), hemission, Emission.text]
    simp [eq_comm]

/-! ### All or nothing -/

/-- **Output is all or nothing, repeatable, and the same from a build and from the program.** -/
theorem output_all_or_nothing (environment : List (String × String)) (t : FileTree) :
    -- What fails before there is a text to write leaves all files as they are.
    (∀ manifest out f, ({ manifest } : Request).Fails environment t f →
      build manifest out environment t = (t, ⟨dependencyLines manifest, .error f⟩)) ∧
    (∀ arguments a f, Invocation.ofList arguments = .run a → a.request.Fails environment t f →
      run arguments environment t = (t, .failure f)) ∧
    -- What succeeds has left its text, and is repeated without any change.
    (∀ manifest out u lines g changed, build manifest out environment t = (u, ⟨lines, .ok (g, changed)⟩) →
      ({ manifest } : Request).Yields environment t g ∧ u.read? out = some g.source ∧
      (({ manifest } : Request).Apart t out →
        build manifest out environment u = (u, ⟨lines, .ok (g, false)⟩))) ∧
    (∀ arguments a out u text, Invocation.ofList arguments = .run a → a.output = some out →
      run arguments environment t = (u, .success text) →
      ∃ g, a.request.Yields environment t g ∧ u.read? out = some (a.emission.text g) ∧
        (a.request.Apart t out →
          run arguments environment u = (u, .success text) ∧
          u.output out (a.emission.text g) = (u, .ok false))) ∧
    -- Without options of its own, the program does what a build does.
    (∀ manifest arguments a, Invocation.ofList arguments = .run a → a.request = { manifest } → a.emission = .source →
      (∀ out, a.output = some out → run arguments environment t =
        ((build manifest out environment t).1, .ofOutcome (build manifest out environment t).2.outcome)) ∧
      (a.output = none →
        (∀ text, run arguments environment t = (t, .success text) ↔
          ∃ g, ({ manifest } : Request).Yields environment t g ∧ text = g.source) ∧
        (∀ f, run arguments environment t = (t, .failure f) ↔ ({ manifest } : Request).Fails environment t f))) := by
  refine ⟨fun manifest out f hf => build_of_fails hf, fun arguments a f ha hf => run_of_fails ha hf, ?_, ?_,
    fun manifest arguments a ha hrequest hemission =>
      ⟨fun out hout => run_eq_build ha hrequest hemission hout, run_eq_iff_of_output_none ha hrequest hemission⟩⟩
  · intro manifest out u lines g changed hbuild
    obtain ⟨hg, houtput, hlines⟩ := build_eq_ok.mp hbuild
    obtain ⟨-, -, -, hread⟩ := FileTree.output_eq_ok houtput
    refine ⟨hg, hread, fun hapart => ?_⟩
    obtain ⟨hagain, hunchanged⟩ := hg.again houtput hapart
    exact build_eq_ok.mpr ⟨hagain, hunchanged, hlines⟩
  · intro arguments a out u text ha hout hrun
    obtain ⟨htext, g, changed, hg, houtput⟩ := (run_eq_success ha hout).mp hrun
    obtain ⟨-, -, -, hread⟩ := FileTree.output_eq_ok houtput
    refine ⟨g, hg, hread, fun hapart => ?_⟩
    obtain ⟨hagain, hunchanged⟩ := hg.again houtput hapart
    exact ⟨(run_eq_success ha hout).mpr ⟨htext, g, false, hagain, hunchanged⟩, hunchanged⟩

/-- A manifest in a folder, another that is none, options beside them, and an old text where a container is to go. -/
def Sample.folder : FileTree where
  files :=
    [(["app", "di.toml"], "[[types]]\nname = \"Clock\"\nunit = true\nmarkers = [\x7b lifetime = \"singleton\" \x7d]\n"),
     (["app", "options.json"], "\x7b\"namespace\": \"services\"\x7d"),
     (["app", "broken.toml"], "types = 1\n"),
     (["out", "container.rs"], "// old\n")]
  folders := [["app"], ["out"], ["app", "options"]]

/-- What the program is asked for: the container of a manifest, with options from a file that a folder stands for. -/
def Sample.request : List String := ["app/di.toml", "-c", "app/options", "-o", "out/new/container.rs"]

theorem output_all_or_nothing_folder :
    -- A build that replaces an old text
    (∃ u lines g, build "app/di.toml" "out/container.rs" [] Sample.folder = (u, ⟨lines, .ok (g, true)⟩) ∧
      u.read? "out/container.rs" = some g.source ∧
      build "app/di.toml" "out/container.rs" [] u = (u, ⟨lines, .ok (g, false)⟩)) ∧
    -- a build that fails,
    (∃ f, build "app/broken.toml" "out/container.rs" [] Sample.folder =
      (Sample.folder, ⟨dependencyLines "app/broken.toml", .error f⟩)) ∧
    -- and the program
    ∃ u, run Sample.request [] Sample.folder = (u, .success "") ∧ run Sample.request [] u = (u, .success "") := by
  refine ⟨?_, ?_, ?_⟩
  · have hchanged : (build "app/di.toml" "out/container.rs" [] Sample.folder).2.outcome.toOption.map (·.2) =
        some true := by decide +kernel
    rcases hbuild : build "app/di.toml" "out/container.rs" [] Sample.folder with ⟨u, lines, _ | ⟨g, changed⟩⟩
    · rw [hbuild] at hchanged
      exact nomatch hchanged
    · rw [hbuild] at hchanged
      obtain rfl : changed = true := Option.some.inj hchanged
      obtain ⟨-, hread, hagain⟩ := (output_all_or_nothing [] Sample.folder).2.2.1 _ _ _ _ _ _ hbuild
      exact ⟨u, lines, g, rfl, hread, hagain (by decide +kernel)⟩
  · have hfails : ({ manifest := "app/broken.toml" } : Request).Fails [] Sample.folder
        (.manifest "app/broken.toml" (.unparsable .shape)) := .manifest (by decide +kernel)
    exact ⟨_, (output_all_or_nothing [] Sample.folder).1 _ _ _ hfails⟩
  · have harguments : Invocation.ofList Sample.request = .run
        { request := { manifest := "app/di.toml", optionFile := some "app/options" }
          output := some "out/new/container.rs", emission := .source } := by decide +kernel
    have hrun : (run Sample.request [] Sample.folder).2 = .success "" := by decide +kernel
    obtain ⟨g, -, -, hagain⟩ := (output_all_or_nothing [] Sample.folder).2.2.2.1 _ _ _ _ _ harguments rfl
      (Prod.ext rfl hrun)
    exact ⟨_, Prod.ext rfl hrun, (hagain (by decide +kernel)).1⟩

end ServiceContainer
