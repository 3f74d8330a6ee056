import ServiceContainer.Proofs.OptionLayers
import ServiceContainer.Proofs.Output

/-!
# The layer above all others

A request can give the name of the module, which stands above the names that the manifest, the option file and the
environment give. But the options below the request are checked by themselves first. So the name below, which the
request replaces, has no influence as long as it is an identifier, and ends the run if it is none.

## Main definitions

* `Request.Alike` — inputs that say the same but for the name of the module
* `Request.Below` — the name of the module in the layers below the request
* `Ending.putOut?` — what a run puts out

## Main statements

* `FileTree.exists_output_iff` — whether a file can be written depends on the places of files only
* `Request.Alike.yields_iff` — a request yields the same from inputs that name the module in other ways
* `run_name_above_layers` — what comes of the name that a request gives, by the name below it
-/

namespace ServiceContainer

/-! ### Where files can be written -/

namespace FileTree

variable {t t' : FileTree} {place q : List String} {path : String}

/-- Two trees have files and folders at the same places. -/
structure SameShape (t t' : FileTree) : Prop where
  files : t.files.map (·.1) = t'.files.map (·.1)
  folders : t.folders = t'.folders
  blobs : t.blobs = t'.blobs

/-- No file stands where a folder stands. -/
def Parted (t : FileTree) : Prop := ∀ place, t.isFile place = true → t.isFolder place = false

theorem isSome_text?_iff : (t.text? place).isSome = true ↔ place ∈ t.files.map (·.1) := by
  simp [text?]

theorem SameShape.isFolder_eq (h : t.SameShape t') (place : List String) : t.isFolder place = t'.isFolder place := by
  rw [isFolder, isFolder, h.folders]

theorem SameShape.isFile_eq (h : t.SameShape t') (place : List String) : t.isFile place = t'.isFile place := by
  have htext : (t.text? place).isSome = (t'.text? place).isSome := by
    rw [Bool.eq_iff_iff, isSome_text?_iff, isSome_text?_iff, h.files]
  rw [isFile, isFile, htext, h.blobs]

theorem SameShape.symm (h : t.SameShape t') : t'.SameShape t := ⟨h.files.symm, h.folders.symm, h.blobs.symm⟩

/-- In trees of one shape the same folders are made. -/
theorem SameShape.makeFolders (h : t.SameShape t') (place steps : List String) :
    (t.makeFolders place steps).1.SameShape (t'.makeFolders place steps).1 ∧
      (t.makeFolders place steps).2 = (t'.makeFolders place steps).2 := by
  induction steps generalizing t t' place with
  | nil => exact ⟨h, rfl⟩
  | cons step rest ih =>
    rw [FileTree.makeFolders, FileTree.makeFolders]
    by_cases hback : (step == "..") = true
    · rw [if_pos hback, if_pos hback]
      by_cases hplace : place.isEmpty = true
      · rw [if_pos hplace, if_pos hplace]
        exact ⟨h, rfl⟩
      · rw [if_neg hplace, if_neg hplace]
        exact ih h _
    · rw [if_neg hback, if_neg hback]
      dsimp only
      rw [h.isFolder_eq, h.isFile_eq]
      by_cases hfolder : t'.isFolder (place ++ [step]) = true
      · rw [if_pos hfolder, if_pos hfolder]
        exact ih h _
      · rw [if_neg hfolder, if_neg hfolder]
        by_cases hfile : t'.isFile (place ++ [step]) = true
        · rw [if_pos hfile, if_pos hfile]
          exact ⟨h, rfl⟩
        · rw [if_neg hfile, if_neg hfile]
          have hmade : ({ t with folders := t.folders ++ [place ++ [step]] } : FileTree).SameShape
              { t' with folders := t'.folders ++ [place ++ [step]] } := ⟨h.files, by rw [h.folders], h.blobs⟩
          exact ih hmade _

/-- In trees of one shape there is room for a file at the same paths. -/
theorem SameShape.makeRoom_eq (h : t.SameShape t') (path : String) : (t.makeRoom path).2 = (t'.makeRoom path).2 := by
  rw [makeRoom, makeRoom]
  cases (steps path).getLast? with
  | none => rfl
  | some name =>
    dsimp only
    obtain ⟨hshape, hplace⟩ := h.makeFolders [] (steps path).dropLast
    revert hshape hplace
    rcases t.makeFolders [] (steps path).dropLast with ⟨u, place⟩
    rcases t'.makeFolders [] (steps path).dropLast with ⟨u', place'⟩
    rintro hshape rfl
    cases place with
    | none => rfl
    | some folder =>
      dsimp only
      rw [hshape.isFolder_eq]
      split <;> rfl

/-- Where steps lead to a folder, no folder is made on the way. -/
theorem makeFolders_of_follow? {steps : List String} (h : t.follow? place steps = some q)
    (hq : t.isFolder q = true) : t.makeFolders place steps = (t, some q) := by
  induction steps generalizing place with
  | nil =>
    obtain rfl := Option.some.inj h
    rfl
  | cons step rest ih =>
    rw [FileTree.makeFolders]
    obtain ⟨-, ⟨hback, hplace, hrest⟩ | ⟨hon, hrest⟩⟩ := follow?_cons_eq_some.mp h
    · rw [if_pos hback, hplace, if_neg Bool.false_ne_true]
      exact ih hrest
    · have hnext : t.isFolder (place ++ [step]) = true := by
        cases rest with
        | nil =>
          obtain rfl := Option.some.inj hrest
          exact hq
        | cons next rest => exact (follow?_cons_eq_some.mp hrest).1
      rw [hon, if_neg Bool.false_ne_true]
      dsimp only
      rw [if_pos hnext]
      exact ih hrest

/-- What can be followed goes through folders. -/
theorem Open.of_follow? {steps : List String} (hplace : t.Open place.dropLast)
    (h : t.follow? place steps = some q) : t.Open q.dropLast := by
  induction steps generalizing place with
  | nil =>
    obtain rfl := Option.some.inj h
    exact hplace
  | cons step rest ih =>
    obtain ⟨hfolder, ⟨-, -, hrest⟩ | ⟨-, hrest⟩⟩ := follow?_cons_eq_some.mp h
    · exact ih hplace.dropLast hrest
    · refine ih ?_ hrest
      rw [List.dropLast_concat]
      obtain rfl | ⟨front, last, rfl⟩ := place.eq_nil_or_concat'
      · exact open_nil t
      · rw [List.dropLast_concat] at hplace
        exact hplace.concat hfolder

/-- There is room for a file where one is read. -/
theorem Parted.isSome_makeRoom {text : String} (ht : t.Parted) (h : t.read? path = some text) :
    (t.makeRoom path).2.isSome = true := by
  rw [read?, Option.ite_none_left_eq_some, textAlong?, Option.bind_eq_some_iff] at h
  obtain ⟨hpath, q, hq, htext⟩ := h
  have hnotfolder : t.isFolder q = false := ht q (by simp [isFile, htext])
  rw [makeRoom]
  cases hname : (steps path).getLast? with
  | none =>
    rw [List.getLast?_eq_none_iff] at hname
    rw [hname] at hq
    obtain rfl := Option.some.inj hq
    exact absurd hnotfolder (by simp [t.isFolder_nil])
  | some name =>
    rw [← steps_eq_concat hname, follow?_append] at hq
    obtain ⟨p, hp, hlast⟩ := Option.bind_eq_some_iff.mp hq
    obtain ⟨hfolder, ⟨-, -, hend⟩ | ⟨hon, hend⟩⟩ := follow?_cons_eq_some.mp hlast
    · -- A step back leads to a folder, where no file is read.
      obtain rfl := Option.some.inj hend
      have hopen : t.isFolder p.dropLast = true := (open_nil t).of_follow? hp _ List.prefix_rfl
      exact absurd hnotfolder (by simp [hopen])
    · obtain rfl := Option.some.inj hend
      have hnames : namesFolder path = false := by
        by_contra hnot
        exact hpath (by simp [Bool.eq_true_of_not_eq_false hnot])
      simp [makeFolders_of_follow? hp hfolder, hon, hnames, hnotfolder]

/-- A text can be put out where there is room for a file. -/
theorem exists_output_iff (ht : t.Parted) (path text : String) :
    (∃ u changed, t.output path text = (u, .ok changed)) ↔ (t.makeRoom path).2.isSome = true := by
  by_cases hread : t.read? path = some text
  · exact iff_of_true ⟨t, false, output_of_read? hread⟩ (ht.isSome_makeRoom hread)
  · have hne : (t.read? path == some text) = false := by simpa using hread
    rw [output, write, hne, if_neg Bool.false_ne_true, store]
    rcases t.makeRoom path with ⟨u, _ | place⟩ <;> simp

end FileTree

/-! ### What a run puts out -/

/-- What a run puts out: the text on its output, or the one in the file that the arguments name. -/
def Ending.putOut? (output : Option String) : FileTree × Ending → Option String
  | (t, .success text) =>
    match output with
    | none => some text
    | some path => t.read? path
  | (_, .failure _) | (_, .misuse) => none

section

variable {a : Arguments} {environment : List (String × String)} {t : FileTree}

/-- A run puts out what its request yields, where it can be put. -/
theorem Arguments.putOut?_run_eq_some (ht : t.Parted) {text : String} :
    Ending.putOut? a.output (a.run environment t) = some text ↔
      (∃ g, a.request.Yields environment t g ∧ a.emission.text g = text) ∧
        ∀ path, a.output = some path → (t.makeRoom path).2.isSome = true := by
  rw [run]
  cases hproduce : a.request.produce environment t with
  | error f =>
    have hnone (g : Generated) : ¬ a.request.Yields environment t g := by
      rw [← Request.produce_eq_ok, hproduce]
      intro h
      cases h
    simp [Ending.putOut?, hnone]
  | ok g =>
    have hyields (g' : Generated) : a.request.Yields environment t g' ↔ g' = g := by
      rw [← Request.produce_eq_ok, hproduce, Except.ok.injEq, eq_comm]
    simp only [hyields, exists_eq_left]
    cases hout : a.output with
    | none => simp [Ending.putOut?]
    | some path =>
      simp only [Option.some.injEq, forall_eq']
      rw [← FileTree.exists_output_iff ht path (a.emission.text g)]
      rcases houtput : t.output path (a.emission.text g) with ⟨u, _ | changed⟩
      · simp [Ending.putOut?]
      · obtain ⟨-, -, -, hread⟩ := FileTree.output_eq_ok houtput
        simp [Ending.putOut?, hread]

end

/-! ### Layers beside one key -/

namespace Settings

variable {key other : String} {layer : List (String × Document)} {d : Document}

/-- The entries of a layer that are about other keys. -/
def beside (key : String) (layer : List (String × Document)) : List (String × Document) :=
  layer.filter fun entry => (setBy entry).1 != key

/-- The layer sets the key to nothing but texts. -/
def SetsText (key : String) (layer : List (String × Document)) : Prop :=
  ∀ entry ∈ layer, (setBy entry).1 = key → (setBy entry).2.asText?.isSome = true

theorem lastSet?_beside (hne : other ≠ key) (layer : List (String × Document)) :
    lastSet? (telling (beside key layer)) other = lastSet? (telling layer) other := by
  simp only [lastSet?, telling, beside, List.filter_map, List.filter_filter]
  congr 4
  funext entry
  by_cases h : (setBy entry).1 = other
  · simp [h, hne]
  · simp [beq_eq_false_iff_ne.mpr h]

theorem SetsText.isSome_asText? (h : SetsText key layer) (hset : lastSet? (telling layer) key = some d) :
    d.asText?.isSome = true := by
  obtain ⟨pair, hpair, rfl⟩ := Option.map_eq_some_iff.mp hset
  obtain ⟨hmem, hkey⟩ := List.mem_filter.mp (List.mem_of_getLast? hpair)
  obtain ⟨entry, hentry, rfl⟩ := List.mem_map.mp hmem
  exact h entry (List.mem_filter.mp hentry).1 (beq_iff_eq.mp hkey)

end Settings

/-! ### Options beside the name of the module -/

namespace Options

/-- The options with another name of the module. -/
def named (o : Options) (name : String) : Options := { o with moduleName := name }

theorem validate_eq_ok_iff (o : Options) : o.validate = .ok () ↔
    (Syntax.readIdent? o.moduleName).isSome ∧ (Syntax.readIdent? o.rootName).isSome ∧
      (Syntax.readIdent? o.scopedName).isSome ∧ o.rootName ≠ o.scopedName ∧
        (Syntax.readPath? o.runtimePath).isSome := by
  have hfault : o.validate = .ok () ↔ o.fault? = none := by
    rw [validate]
    cases o.fault? <;> simp
  have hnames : (o.names.find? fun entry => (Syntax.readIdent? entry.2).isNone) = none ↔
      (Syntax.readIdent? o.moduleName).isSome ∧ (Syntax.readIdent? o.rootName).isSome ∧
        (Syntax.readIdent? o.scopedName).isSome := by
    simp [names, Option.isSome_iff_ne_none]
  rw [hfault, fault?]
  suffices h : _ ↔ (_ ∧ _ ∧ _) ∧ _ by simpa only [and_assoc] using h
  rw [← hnames]
  split
  next hfound => simp [hfound]
  next hnone =>
    by_cases heq : o.rootName = o.scopedName
    · simp [heq]
    · simp [heq, hnone, Option.isSome_iff_ne_none]

/-- Valid options stay valid with another name of the module just when that is an identifier. -/
theorem validate_named {o : Options} (ho : o.validate = .ok ()) (name : String) :
    (o.named name).validate = .ok () ↔ (Syntax.readIdent? name).isSome = true := by
  rw [validate_eq_ok_iff] at ho ⊢
  exact and_iff_left ho.2

theorem ReadFrom.named {o : Options} {value value' : String → Document → Prop} {name : String} (h : o.ReadFrom value)
    (hsame : ∀ key ∈ keys, key ≠ "namespace" → ∀ d, value key d ↔ value' key d)
    (hname : ∃ d, value' "namespace" d ∧ d.asText? = some name) : (o.named name).ReadFrom value' := by
  have hat {key : String} (hkey : key ∈ keys) (hne : key ≠ "namespace") {p : Document → Prop}
      (hex : ∃ d, value key d ∧ p d) : ∃ d, value' key d ∧ p d := by
    obtain ⟨d, hd, hp⟩ := hex
    exact ⟨d, (hsame key hkey hne d).mp hd, hp⟩
  exact ⟨hname, hat (by decide) (by decide) h.rootName, hat (by decide) (by decide) h.scopedName,
    hat (by decide) (by decide) h.runtimePath, hat (by decide) (by decide) h.strictMarkers⟩

end Options

theorem OptionLayer.unique {t : FileTree} {file? : Option String} {file file' : List (String × Document)}
    (h : OptionLayer t file? file) (h' : OptionLayer t file? file') : file = file' := by
  cases file? with
  | none => exact Eq.trans h (Eq.symm h')
  | some path => exact Except.ok.inj (Eq.trans (Eq.symm h) h')

/-- The manifest without what it says of the name of the module. -/
def Manifest.unnamed (m : Manifest) : Manifest := { m with options := m.options.named "" }

/-! ### The name that a request gives -/

namespace Request

/-- The inputs of a request say the same, but for the name of the module. -/
structure Alike (r : Request) (environment environment' : List (String × String)) (t t' : FileTree) : Prop where
  shape : t.SameShape t'
  manifest : (t.manifest r.manifest).map Manifest.unnamed = (t'.manifest r.manifest).map Manifest.unnamed
  file : ∀ path, r.optionFile = some path →
    (t.optionEntries path).map (Settings.beside "namespace") = (t'.optionEntries path).map (Settings.beside "namespace")
  environment : Settings.beside "namespace" (environmentEntries environment) =
    Settings.beside "namespace" (environmentEntries environment')

/-- Where the option file and the environment give the name of the module, they give a text. -/
structure NamedByText (r : Request) (environment : List (String × String)) (t : FileTree) : Prop where
  file : ∀ file, OptionLayer t r.optionFile file → Settings.SetsText "namespace" file
  environment : Settings.SetsText "namespace" (environmentEntries environment)

/-- The name of the module in the layers below the request. -/
def Below (r : Request) (environment : List (String × String)) (t : FileTree) (name : String) : Prop :=
  ∃ m file, t.manifest r.manifest = .ok m ∧ OptionLayer t r.optionFile file ∧
    ∃ d, (Settings.ofLayers m.options file (environmentEntries environment)).value? "namespace" = some d ∧
      d.asText? = some name

/-- The request without the name that it gives. -/
def unnamed (r : Request) : Request := { r with moduleName := none }

variable {r : Request} {environment environment' : List (String × String)} {t t' : FileTree} {g : Generated}
  {name low low' : String}

theorem Alike.symm (h : r.Alike environment environment' t t') : r.Alike environment' environment t' t :=
  ⟨h.shape.symm, h.manifest.symm, fun path hpath => (h.file path hpath).symm, h.environment.symm⟩

/-- What can be read of one input can be read of the other. -/
theorem Alike.layers (h : r.Alike environment environment' t t') {m : Manifest} {file : List (String × Document)}
    (hm : t.manifest r.manifest = .ok m) (hfile : OptionLayer t r.optionFile file) :
    ∃ m' file', t'.manifest r.manifest = .ok m' ∧ OptionLayer t' r.optionFile file' ∧ m.unnamed = m'.unnamed ∧
      ∀ key ∈ Options.keys, key ≠ "namespace" →
        (Settings.ofLayers m.options file (environmentEntries environment)).value? key =
          (Settings.ofLayers m'.options file' (environmentEntries environment')).value? key := by
  have hmanifest := h.manifest
  rw [hm] at hmanifest
  cases hm' : t'.manifest r.manifest with
  | error e =>
    rw [hm'] at hmanifest
    exact nomatch hmanifest
  | ok m' =>
    rw [hm'] at hmanifest
    have hunnamed : m.unnamed = m'.unnamed := Except.ok.inj hmanifest
    obtain ⟨file', hfile', hbeside⟩ : ∃ file', OptionLayer t' r.optionFile file' ∧
        Settings.beside "namespace" file = Settings.beside "namespace" file' := by
      cases hpath : r.optionFile with
      | none =>
        rw [hpath] at hfile
        exact ⟨[], rfl, by rw [show file = [] from hfile]⟩
      | some path =>
        have hentries := h.file path hpath
        rw [hpath] at hfile
        rw [show t.optionEntries path = .ok file from hfile] at hentries
        cases hread : t'.optionEntries path with
        | error e =>
          rw [hread] at hentries
          exact nomatch hentries
        | ok file' =>
          rw [hread] at hentries
          exact ⟨file', hread, Except.ok.inj hentries⟩
    refine ⟨m', file', rfl, hfile', hunnamed, fun key hkey hne => ?_⟩
    have hbase : Settings.value? m.options.entries key = Settings.value? m'.options.entries key := by
      have hoptions : m.options.named "" = m'.options.named "" := congrArg Manifest.options hunnamed
      have hvalue (o : Options) : Settings.value? o.entries key = Settings.value? o.entries.tail key :=
        (Settings.value?_cons "namespace" (.text o.moduleName) _).trans (if_neg (Ne.symm hne))
      rw [hvalue, hvalue]
      have htail := congrArg (fun o : Options => Settings.value? o.entries.tail key) hoptions
      exact htail
    rw [Options.value?_ofLayers hkey, Options.value?_ofLayers hkey, hbase, ← Settings.lastSet?_beside hne file,
      ← Settings.lastSet?_beside hne (environmentEntries environment), hbeside, h.environment,
      Settings.lastSet?_beside hne, Settings.lastSet?_beside hne]

/-- Where the layers can be read, the module has a name below the request. -/
theorem NamedByText.exists_below (h : r.NamedByText environment t) {m : Manifest} {file : List (String × Document)}
    (hm : t.manifest r.manifest = .ok m) (hfile : OptionLayer t r.optionFile file) :
    ∃ low, r.Below environment t low := by
  have hkey : "namespace" ∈ Options.keys := by decide
  have hvalue := Options.value?_ofLayers hkey m.options file (environmentEntries environment)
  have hbelow {d : Document}
      (hd : (Settings.ofLayers m.options file (environmentEntries environment)).value? "namespace" = some d)
      (htext : d.asText?.isSome = true) : ∃ low, r.Below environment t low := by
    obtain ⟨low, hlow⟩ := Option.isSome_iff_exists.mp htext
    exact ⟨low, m, file, hm, hfile, d, hd, hlow⟩
  cases henvironment : Settings.lastSet? (Settings.telling (environmentEntries environment)) "namespace" with
  | some d => exact hbelow (by rw [hvalue, henvironment, Option.some_or]) (h.environment.isSome_asText? henvironment)
  | none =>
    rw [henvironment, Option.none_or] at hvalue
    cases hset : Settings.lastSet? (Settings.telling file) "namespace" with
    | some d => exact hbelow (by rw [hvalue, hset, Option.some_or]) ((h.file file hfile).isSome_asText? hset)
    | none =>
      rw [hset, Option.none_or] at hvalue
      exact hbelow hvalue rfl

/-- Options are read with the name below the request. -/
theorem Below.moduleName_eq {m : Manifest} {o : Options} {file : List (String × Document)}
    (h : r.Below environment t low) (hm : t.manifest r.manifest = .ok m) (hfile : OptionLayer t r.optionFile file)
    (ho : o.ReadFrom fun key d =>
      (Settings.ofLayers m.options file (environmentEntries environment)).value? key = some d) :
    o.moduleName = low := by
  obtain ⟨m', file', hm', hfile', d, hd, hlow⟩ := h
  obtain rfl := Except.ok.inj (hm.symm.trans hm')
  obtain rfl := hfile.unique hfile'
  obtain ⟨e, he, hname⟩ := ho.moduleName
  obtain rfl := Option.some.inj (hd.symm.trans he)
  exact Option.some.inj (hname.symm.trans hlow)

/-- A production that succeeds has read all layers. -/
theorem Yields.layers (h : r.Yields environment t g) : ∃ m file o ds, t.manifest r.manifest = .ok m ∧
    OptionLayer t r.optionFile file ∧ (o.ReadFrom fun key d =>
      (Settings.ofLayers m.options file (environmentEntries environment)).value? key = some d) ∧
    o.validate = .ok () ∧ m.declarations = .ok ds ∧ generate (r.override o) ds = .ok g := by
  obtain ⟨m, o, ds, hm, ho, hds, hg⟩ := h
  obtain ⟨file, hfile⟩ : ∃ file, OptionLayer t r.optionFile file := by
    cases hpath : r.optionFile with
    | none => exact ⟨[], rfl⟩
    | some path =>
      rw [hpath, Options.load, bind_eq_ok] at ho
      obtain ⟨file, hfile, -⟩ := ho
      exact ⟨file, hfile⟩
  obtain ⟨hread, hvalid⟩ := (Options.load_eq_ok hfile).mp ho
  exact ⟨m, file, o, ds, hm, hfile, Options.ofSettings?_eq_some.mp hread, hvalid, hds, hg⟩

/-- Options are loaded only where the name below the request is an identifier. -/
theorem Below.isSome_readIdent? {m : Manifest} {o : Options} (h : r.Below environment t low)
    (hm : t.manifest r.manifest = .ok m) (ho : Options.load m.options r.optionFile environment t = .ok o) :
    (Syntax.readIdent? low).isSome = true := by
  obtain ⟨-, file, -, hfile, -⟩ := id h
  obtain ⟨hread, hvalid⟩ := (Options.load_eq_ok hfile).mp ho
  rw [← h.moduleName_eq hm hfile (Options.ofSettings?_eq_some.mp hread)]
  exact ((Options.validate_eq_ok_iff o).mp hvalid).1

/-- The name that a request comes to is an identifier if it yields something. -/
theorem Yields.isSome_readIdent? (h : r.Yields environment t g) (hlow : r.Below environment t low) :
    (Syntax.readIdent? (r.moduleName.getD low)).isSome = true := by
  obtain ⟨m, file, o, ds, hm, hfile, hread, -, -, hg⟩ := h.layers
  obtain rfl := hlow.moduleName_eq hm hfile hread
  exact ((Options.validate_eq_ok_iff _).mp (generate_eq_ok.mp hg).1).1

/-- From inputs that name the module in another way, a request yields the same if its name comes to the same. -/
theorem Alike.yields {given : Option String} (h : r.Alike environment environment' t t')
    (hg : r.Yields environment t g) (hlow : r.Below environment t low) (hlow' : r.Below environment' t' low')
    (hident : (Syntax.readIdent? low').isSome = true) (hname : r.moduleName.getD low = given.getD low') :
    { r with moduleName := given }.Yields environment' t' g := by
  obtain ⟨m, file, o, ds, hm, hfile, hread, hvalid, hds, hg⟩ := hg.layers
  obtain ⟨m', file', hm', hfile', hunnamed, hvalue⟩ := h.layers hm hfile
  obtain rfl := hlow.moduleName_eq hm hfile hread
  have hread' : (o.named low').ReadFrom fun key d =>
      (Settings.ofLayers m'.options file' (environmentEntries environment')).value? key = some d := by
    refine hread.named (fun key hkey hne d => by rw [hvalue key hkey hne]) ?_
    obtain ⟨m'', file'', hm'', hfile'', d, hd, hlow'⟩ := hlow'
    obtain rfl := Except.ok.inj (hm'.symm.trans hm'')
    obtain rfl := hfile'.unique hfile''
    exact ⟨d, hd, hlow'⟩
  have hvalid' := (Options.validate_named hvalid low').mpr hident
  have hload : Options.load m'.options r.optionFile environment' t' = .ok (o.named low') :=
    (Options.load_eq_ok hfile').mpr ⟨Options.ofSettings?_eq_some.mpr hread', hvalid'⟩
  have htypes : m.types = m'.types := (congrArg Manifest.types hunnamed :)
  have hds' : m'.declarations = .ok ds := by rw [← hds, Manifest.declarations, Manifest.declarations, htypes]
  have hoverride : { r with moduleName := given }.override (o.named low') = r.override o := by
    simp only [override, Options.named, hname]
  exact ⟨m', o.named low', ds, hm', hload, hds', by rw [hoverride, hg]⟩

end Request

section

variable {arguments plain : List String} {a : Arguments} {name : String}
  {environment environment' : List (String × String)} {t t' : FileTree}

/-- Requests that yield the same put out the same in trees of one shape. -/
theorem putOut?_run_congr {b : Arguments} (ha : Invocation.ofList arguments = .run a)
    (hb : Invocation.ofList plain = .run b) (houtput : a.output = b.output) (hemission : a.emission = b.emission)
    (hshape : t.SameShape t') (ht : t.Parted) (ht' : t'.Parted)
    (hyields : ∀ g, a.request.Yields environment t g ↔ b.request.Yields environment' t' g) :
    Ending.putOut? a.output (run arguments environment t) = Ending.putOut? b.output (run plain environment' t') := by
  ext text
  rw [run_eq ha, run_eq hb, Arguments.putOut?_run_eq_some ht, Arguments.putOut?_run_eq_some ht']
  simp only [hyields, hshape.makeRoom_eq, houtput, hemission]

/-- **The name that a request gives stands above all layers, unless the one below it is no identifier.** -/
theorem run_name_above_layers (ha : Invocation.ofList arguments = .run a) (hname : a.request.moduleName = some name)
    (halike : a.request.Alike environment environment' t t')
    (hnamed : a.request.NamedByText environment t) (hnamed' : a.request.NamedByText environment' t')
    (ht : t.Parted) (ht' : t'.Parted) :
    -- What is put out does not depend on the names below the request, where they are identifiers;
    ((∀ low, a.request.Below environment t low → (Syntax.readIdent? low).isSome = true) →
      (∀ low, a.request.Below environment' t' low → (Syntax.readIdent? low).isSome = true) →
      Ending.putOut? a.output (run arguments environment t) =
        Ending.putOut? a.output (run arguments environment' t')) ∧
    -- it is what is put out without the name of the request, where that is the name below;
    ((∀ low, a.request.Below environment t low → (Syntax.readIdent? low).isSome = true) →
      a.request.Below environment' t' name → Invocation.ofList plain = .run { a with request := a.request.unnamed } →
      Ending.putOut? a.output (run arguments environment t) = Ending.putOut? a.output (run plain environment' t')) ∧
    -- and a name below the request that is no identifier ends the run.
    (∀ low, a.request.Below environment t low → (Syntax.readIdent? low).isSome = false →
      ∃ e, run arguments environment t = (t, .failure (.options e))) := by
  -- A request that yields something from one of the inputs has a name below it in both.
  have hbelow {r : Request} {environment environment' : List (String × String)} {t t' : FileTree} {g : Generated}
      (halike : r.Alike environment environment' t t') (hnamed : r.NamedByText environment t)
      (hnamed' : r.NamedByText environment' t') (hg : r.Yields environment t g) :
      (∃ low, r.Below environment t low) ∧ ∃ low, r.Below environment' t' low := by
    obtain ⟨m, file, o, ds, hm, hfile, -⟩ := hg.layers
    obtain ⟨m', file', hm', hfile', -⟩ := halike.layers hm hfile
    exact ⟨hnamed.exists_below hm hfile, hnamed'.exists_below hm' hfile'⟩
  refine ⟨fun hident hident' => ?_, fun hident hlow' hplain => ?_, fun low hlow hident => ?_⟩
  · refine putOut?_run_congr ha ha rfl rfl halike.shape ht ht' fun g => ?_
    constructor
    · intro hg
      obtain ⟨⟨low, hlow⟩, low', hlow'⟩ := hbelow halike hnamed hnamed' hg
      have hgiven : a.request.moduleName.getD low = a.request.moduleName.getD low' := by rw [hname]; rfl
      exact halike.yields hg hlow hlow' (hident' low' hlow') hgiven
    · intro hg
      obtain ⟨⟨low', hlow'⟩, low, hlow⟩ := hbelow halike.symm hnamed' hnamed hg
      have hgiven : a.request.moduleName.getD low' = a.request.moduleName.getD low := by rw [hname]; rfl
      exact halike.symm.yields hg hlow' hlow (hident low hlow) hgiven
  · refine putOut?_run_congr (b := { a with request := a.request.unnamed }) ha hplain rfl rfl halike.shape ht ht' fun g => ?_
    constructor
    · intro hg
      obtain ⟨⟨low, hlow⟩, -⟩ := hbelow halike hnamed hnamed' hg
      have hvalid := hg.isSome_readIdent? hlow
      rw [hname] at hvalid
      exact halike.yields hg hlow hlow' hvalid (by rw [hname]; rfl)
    · intro hg
      -- The request without a name reads the same inputs.
      have hback : a.request.unnamed.Alike environment' environment t' t :=
        ⟨halike.symm.shape, halike.symm.manifest, halike.symm.file, halike.symm.environment⟩
      obtain ⟨-, low, hlow⟩ := hbelow hback ⟨hnamed'.file, hnamed'.environment⟩ ⟨hnamed.file, hnamed.environment⟩ hg
      have hgiven : a.request.unnamed.moduleName.getD name = a.request.moduleName.getD low := by rw [hname]; rfl
      exact hback.yields hg hlow' hlow (hident low hlow) hgiven
  · have hload {m : Manifest} {o : Options} (hm : t.manifest a.request.manifest = .ok m)
        (ho : Options.load m.options a.request.optionFile environment t = .ok o) : False := by
      exact absurd (hlow.isSome_readIdent? hm ho) (by simp [hident])
    rw [run_eq ha, Arguments.run]
    cases hproduce : a.request.produce environment t with
    | ok g =>
      obtain ⟨m, o, ds, hm, ho, -⟩ := Request.produce_eq_ok.mp hproduce
      exact (hload hm ho).elim
    | error f =>
      cases Request.produce_eq_error.mp hproduce with
      | manifest hm =>
        obtain ⟨m, file, hm', -⟩ := hlow
        cases hm.symm.trans hm'
      | options => exact ⟨_, rfl⟩
      | declarations hm ho => exact (hload hm ho).elim
      | generation hm ho => exact (hload hm ho).elim

end

/-- A manifest and an option file that name the module. -/
def Sample.counter : FileTree where
  files := [(["services.toml"], "[generator]\nnamespace = \"services\"\n"), (["o.toml"], "namespace = \"desk\"\n")]

/-- The same files with other names, the last of which is the one that a request gives. -/
def Sample.till : FileTree where
  files := [(["services.toml"], ""), (["o.toml"], "namespace = \"wiring\"\n")]

/-- The program is asked for the table of services, with a name that is given above the layers. -/
def Sample.listing (optionFile given : Option String) : Arguments where
  request := { manifest := "services.toml", optionFile, moduleName := given }
  output := none
  emission := .descriptors

/-- A layer gives names of the module that are texts, and nothing else. -/
def Sample.isName (layer : List (String × Document)) : Bool :=
  (Settings.beside "namespace" layer).isEmpty && layer.all fun entry => (Settings.setBy entry).2.asText?.isSome

/-- The name of the module in layers. -/
def Sample.name? (base : Options) (environment : List (String × String)) (file : List (String × Document)) :
    Option String :=
  (Settings.value? (Settings.ofLayers base file (environmentEntries environment)) "namespace").bind Document.asText?

theorem Sample.beside_of_isName {layer : List (String × Document)} (h : isName layer = true) :
    Settings.beside "namespace" layer = [] ∧ Settings.SetsText "namespace" layer := by
  rw [isName, Bool.and_eq_true, List.isEmpty_iff, List.all_eq_true] at h
  exact ⟨h.1, fun entry hentry _ => h.2 entry hentry⟩

theorem Sample.parted {t : FileTree} (hfolders : t.folders = []) (hroot : t.isFile [] = false) : t.Parted := by
  intro place hplace
  have hne : place ≠ [] := by
    rintro rfl
    exact absurd hplace (by simp [hroot])
  simp [FileTree.isFolder, hfolders, hne]

theorem run_name_above_layers_till :
    Ending.putOut? none (run ["services.toml", "-c", "o.toml", "--emit", "descriptors", "--namespace", "wiring"]
        [("DI_CODEGEN_NAMESPACE", "office")] Sample.counter) =
      Ending.putOut? none (run ["services.toml", "-c", "o.toml", "--emit", "descriptors"] [] Sample.till) := by
  have harguments : Invocation.ofList
      ["services.toml", "-c", "o.toml", "--emit", "descriptors", "--namespace", "wiring"] =
      .run (Sample.listing (some "o.toml") (some "wiring")) := by decide +kernel
  have hplain : Invocation.ofList ["services.toml", "-c", "o.toml", "--emit", "descriptors"] =
      .run (Sample.listing (some "o.toml") none) := by decide +kernel
  have hm : Sample.counter.manifest "services.toml" = .ok { options := { moduleName := "services" } } := by
    decide +kernel
  have hm' : Sample.till.manifest "services.toml" = .ok {} := by decide +kernel
  have hcounter : (Sample.counter.optionEntries "o.toml").toOption.map (fun file => (Sample.isName file,
      Sample.name? { moduleName := "services" } [("DI_CODEGEN_NAMESPACE", "office")] file)) =
      some (true, some "office") := by decide +kernel
  have htill : (Sample.till.optionEntries "o.toml").toOption.map (fun file => (Sample.isName file,
      Sample.name? {} [] file)) = some (true, some "wiring") := by decide +kernel
  have hname : Sample.isName (environmentEntries [("DI_CODEGEN_NAMESPACE", "office")]) = true := by decide +kernel
  obtain ⟨hother, htexts⟩ := Sample.beside_of_isName hname
  cases hfile : Sample.counter.optionEntries "o.toml" with
  | error => simp [hfile, Except.toOption] at hcounter
  | ok file =>
    cases hfile' : Sample.till.optionEntries "o.toml" with
    | error => simp [hfile', Except.toOption] at htill
    | ok file' =>
      simp only [hfile, Except.toOption, Option.map_some, Option.some.injEq, Prod.mk.injEq] at hcounter
      simp only [hfile', Except.toOption, Option.map_some, Option.some.injEq, Prod.mk.injEq] at htill
      have hlayer : OptionLayer Sample.counter (some "o.toml") file := hfile
      have hlayer' : OptionLayer Sample.till (some "o.toml") file' := hfile'
      obtain ⟨hbeside, htext⟩ := Sample.beside_of_isName hcounter.1
      obtain ⟨hbeside', htext'⟩ := Sample.beside_of_isName htill.1
      have halike : (Sample.listing (some "o.toml") (some "wiring")).request.Alike
          [("DI_CODEGEN_NAMESPACE", "office")] [] Sample.counter Sample.till := by
        refine ⟨⟨rfl, rfl, rfl⟩, ?_, fun path hpath => ?_, hother⟩
        · exact (congrArg (Except.map Manifest.unnamed) hm).trans (congrArg (Except.map Manifest.unnamed) hm').symm
        · obtain rfl := Option.some.inj hpath
          rw [hfile, hfile']
          exact congrArg Except.ok (hbeside.trans hbeside'.symm)
      have hnamed : (Sample.listing (some "o.toml") (some "wiring")).request.NamedByText
          [("DI_CODEGEN_NAMESPACE", "office")] Sample.counter :=
        ⟨fun _ h => hlayer.unique h ▸ htext, htexts⟩
      have hnamed' : (Sample.listing (some "o.toml") (some "wiring")).request.NamedByText [] Sample.till :=
        ⟨fun _ h => hlayer'.unique h ▸ htext', fun _ h => absurd h List.not_mem_nil⟩
      refine (run_name_above_layers harguments rfl halike hnamed hnamed' (Sample.parted rfl (by decide +kernel))
        (Sample.parted rfl (by decide +kernel))).2.1 ?_ ?_ hplain
      · rintro low ⟨m, file, hmread, hread, d, hd, hlow⟩
        obtain rfl := Except.ok.inj (hm.symm.trans hmread)
        obtain rfl := hlayer.unique hread
        obtain rfl : "office" = low := by
          have hname := hcounter.2
          rw [Sample.name?, hd] at hname
          exact Option.some.inj (hname.symm.trans hlow)
        decide +kernel
      · obtain ⟨d, hd, hlow⟩ := Option.bind_eq_some_iff.mp htill.2
        exact ⟨{}, file', hm', hfile', d, hd, hlow⟩

/-- A manifest with a name that is no identifier. -/
def Sample.stall : FileTree where
  files := [(["services.toml"], "[generator]\nnamespace = \"mod\"\n")]

/-- A manifest without a name, and the name of a request in the environment. -/
def Sample.bareStall : FileTree where
  files := [(["services.toml"], "")]

/-- The name below the request has an influence, since it is checked before the one above it is taken. -/
theorem not_run_name_above_layers : ¬ ∀ (arguments plain : List String) (a : Arguments) (name : String)
    (environment environment' : List (String × String)) (t t' : FileTree), Invocation.ofList arguments = .run a →
    a.request.moduleName = some name → Invocation.ofList plain = .run { a with request := a.request.unnamed } →
    a.request.Alike environment environment' t t' → a.request.NamedByText environment t →
    a.request.NamedByText environment' t' → t.Parted → t'.Parted → a.request.Below environment' t' name →
    Ending.putOut? a.output (run arguments environment t) = Ending.putOut? a.output (run plain environment' t') := by
  intro hall
  have hm : Sample.stall.manifest "services.toml" = .ok { options := { moduleName := "mod" } } := by decide +kernel
  have hm' : Sample.bareStall.manifest "services.toml" = .ok {} := by decide +kernel
  have hname : Sample.isName (environmentEntries [("DI_CODEGEN_NAMESPACE", "wiring")]) = true := by decide +kernel
  obtain ⟨hother, htexts⟩ := Sample.beside_of_isName hname
  have halike : (Sample.listing none (some "wiring")).request.Alike [] [("DI_CODEGEN_NAMESPACE", "wiring")]
      Sample.stall Sample.bareStall :=
    ⟨⟨rfl, rfl, rfl⟩, (congrArg (Except.map Manifest.unnamed) hm).trans (congrArg (Except.map Manifest.unnamed) hm').symm, nofun, hother.symm⟩
  have hno (file : List (String × Document)) (h : file = []) : Settings.SetsText "namespace" file := by
    rw [h]
    exact nofun
  have hbelow : (Sample.listing none (some "wiring")).request.Below [("DI_CODEGEN_NAMESPACE", "wiring")]
      Sample.bareStall "wiring" := by
    have hname : Sample.name? {} [("DI_CODEGEN_NAMESPACE", "wiring")] [] = some "wiring" := by decide +kernel
    obtain ⟨d, hd, hlow⟩ := Option.bind_eq_some_iff.mp hname
    exact ⟨{}, [], hm', rfl, d, hd, hlow⟩
  have hsame := hall ["services.toml", "--emit", "descriptors", "--namespace", "wiring"]
    ["services.toml", "--emit", "descriptors"] (Sample.listing none (some "wiring")) "wiring" [] _ Sample.stall
    Sample.bareStall (by decide +kernel) rfl (by decide +kernel) halike ⟨hno, nofun⟩ ⟨hno, htexts⟩
    (Sample.parted rfl (by decide +kernel)) (Sample.parted rfl (by decide +kernel)) hbelow
  exact absurd hsame (by decide +kernel)

end ServiceContainer
