import ServiceContainer.Manifest
import ServiceContainer.Proofs.JsonWriting
import ServiceContainer.Proofs.RecordText

/-!
# Reading undoes writing for manifests

A manifest, its entries and its options are records, each with the forms of its fields. The shapes by which they are
decoded fit these forms, so a manifest is read back from every text that writes it, also from those that this library
writes. In an entry no other field may stand.

## Main definitions

* `Manifest.Written` — a document writes a manifest
* `FieldAddedToEntry` — two documents differ in a field that one entry has more

## Main statements

* `Manifest.ofJson_of_written` — a text that writes a manifest is read as it, or ends with its first unknown name
* `Manifest.reading_undoes_writing` — reading undoes writing
-/

namespace ServiceContainer

open Document (decodeText decodeBoolean decodeOptional decodeList)

/-! ### How manifests are written -/

/-- The fields of a marker. -/
def MarkerEntry.forms (m : MarkerEntry) : List FieldForm :=
  [.plain "lifetime" (.optional m.lifetime) (m.lifetime = none), .plain "key" (.optional m.key) (m.key = none)]

/-- The fields of a constructor. -/
def ConstructorEntry.forms (c : ConstructorEntry) : List FieldForm :=
  [.plain "name" (.text c.name) (c.name = "new"), .plain "params" (textsDocument c.parameters) (c.parameters = [])]

/-- The fields of a method. -/
def MethodEntry.forms (m : MethodEntry) : List FieldForm :=
  [.plain "name" (.text m.name) False, .plain "static" (.boolean m.isStatic) (m.isStatic = true),
   .plain "factory" (.boolean m.isFactory) (m.isFactory = false),
   .plain "params" (textsDocument m.parameters) (m.parameters = []),
   .plain "returns" (.optional m.returns) (m.returns = none)]

/-- A document writes a constructor that may be absent. -/
def ConstructorWritten (c? : Option ConstructorEntry) (d : Document) (us : List String) : Prop :=
  match c? with
  | some c => RecordWritten c.forms true d us
  | none => d = .null ∧ us = []

/-- The fields of a type. -/
def TypeEntry.forms (t : TypeEntry) : List FieldForm :=
  [.plain "name" (.text t.name) False, .plain "trait" (.boolean t.isTrait) (t.isTrait = false),
   .plain "enum" (.boolean t.isEnum) (t.isEnum = false),
   .plain "abstract" (.boolean t.isAbstract) (t.isAbstract = false), .plain "unit" (.boolean t.unit) (t.unit = false),
   .plain "base" (.optional t.base) (t.base = none),
   .plain "contracts" (textsDocument t.contracts) (t.contracts = []),
   .plain "disposable" (.boolean t.disposable) (t.disposable = false),
   .list "markers" (fun m => RecordWritten m.forms true) t.markers,
   ⟨"constructor", ConstructorWritten t.constructor, t.constructor = none⟩,
   .list "methods" (fun m => RecordWritten m.forms true) t.methods]

/-- The fields of options. -/
def Options.forms (o : Options) : List FieldForm :=
  [.plain "namespace" (.text o.moduleName) (o.moduleName = "container"),
   .plain "provider_name" (.text o.rootName) (o.rootName = "ServiceProvider"),
   .plain "scoped_provider_name" (.text o.scopedName) (o.scopedName = "ScopedServiceProvider"),
   .plain "runtime_path" (.text o.runtimePath) (o.runtimePath = "::di_abstractions"),
   .plain "strict_markers" (.boolean o.strictMarkers) (o.strictMarkers = false)]

/-- The fields of a manifest. -/
def Manifest.forms (m : Manifest) : List FieldForm :=
  [⟨"generator", RecordWritten m.options.forms false, m.options = {}⟩,
   .list "types" (fun t => RecordWritten t.forms true) m.types]

/-- A document writes a manifest; the names are those of further fields in the entries of types, markers, constructors
and methods. -/
def Manifest.Written (m : Manifest) (d : Document) (us : List String) : Prop := RecordWritten m.forms false d us

/-! ### One field more -/

/-- The names that the fields of a shape have. -/
def RecordShape.names {σ : Type} (shape : RecordShape σ) : List String := shape.fields.map (·.name)

/-- A field with another name than those of the entry is added to a type, or to a marker, the constructor or a method of
it. -/
def FieldAddedToType (name : String) (d d' : Document) : Prop :=
  FieldAdded (TypeEntry.shape true).names name d d' ∨
    FieldChanged "markers" (ItemChanged (FieldAdded (MarkerEntry.shape true).names name)) d d' ∨
    FieldChanged "constructor" (FieldAdded (ConstructorEntry.shape true).names name) d d' ∨
    FieldChanged "methods" (ItemChanged (FieldAdded (MethodEntry.shape true).names name)) d d'

/-- A field with another name than those of the entry is added to an entry of a manifest. -/
def FieldAddedToEntry (name : String) (d d' : Document) : Prop :=
  FieldChanged "types" (ItemChanged (FieldAddedToType name)) d d'

/-! ### What is decoded -/

/-- A value that one document writes. -/
theorem decodes_plain {α : Type} {decode : Document → Decoded α} {value : Document} {x : α} (h : decode value = .ok x) :
    Decodes decode (fun d us => d = value ∧ us = []) x := by
  rintro d us - ⟨rfl, rfl⟩
  exact h

theorem decodes_text (s : String) : Decodes decodeText (fun d us => d = .text s ∧ us = []) s := decodes_plain rfl

theorem decodes_boolean (b : Bool) : Decodes decodeBoolean (fun d us => d = .boolean b ∧ us = []) b := decodes_plain rfl

theorem decodes_optionalText (s : Option String) :
    Decodes decodeOptionalText (fun d us => d = .optional s ∧ us = []) s := by
  apply decodes_plain
  cases s <;> rfl

theorem decodes_texts (texts : List String) :
    Decodes decodeTexts (fun d us => d = textsDocument texts ∧ us = []) texts := by
  apply decodes_plain
  have hitems : (texts.map Document.text).mapM decodeText = .ok texts := by
    induction texts with
    | nil => rfl
    | cons s texts ih =>
      rw [List.map_cons, List.mapM_cons, ih]
      rfl
  rw [decodeTexts, textsDocument, Document.list, decodeList, hitems]
  rfl

/-- A field that is missing holds its default. -/
theorem kept {α : Type} {name : String} {seen : List String} {x default : α} (h : name ∉ seen → x = default) :
    (if name ∈ seen then x else default) = x :=
  ite_eq_left_iff.mpr fun hname => (h hname).symm

/-- What is known of a marker after some fields. -/
def MarkerEntry.partly (m : MarkerEntry) (seen : List String) : MarkerEntry where
  lifetime := if "lifetime" ∈ seen then m.lifetime else none
  key := if "key" ∈ seen then m.key else none

theorem MarkerEntry.reads (m : MarkerEntry) : (MarkerEntry.shape true).Reads m.forms m.partly m where
  fields := by
    rw [shape, forms]
    refine .cons ?_ <| .cons ?_ .nil
    · refine Field.reads (fun x (m : MarkerEntry) => { m with lifetime := x }) (decodes_optionalText _) ?_ ?_ <;>
        simp [partly]
    · refine Field.reads (fun x (m : MarkerEntry) => { m with key := x }) (decodes_optionalText _) ?_ ?_ <;>
        simp [partly]
  distinct := by simp [forms, FieldForm.plain]
  start := rfl
  whole := by
    intro seen h
    simp only [forms, FieldForm.plain, List.forall_mem_cons] at h
    obtain ⟨hlifetime, hkey, -⟩ := h
    rw [partly, kept hlifetime, kept hkey]

/-- What is known of a constructor after some fields. -/
def ConstructorEntry.partly (c : ConstructorEntry) (seen : List String) : ConstructorEntry where
  name := if "name" ∈ seen then c.name else "new"
  parameters := if "params" ∈ seen then c.parameters else []

theorem ConstructorEntry.reads (c : ConstructorEntry) : (ConstructorEntry.shape true).Reads c.forms c.partly c where
  fields := by
    rw [shape, forms]
    refine .cons ?_ <| .cons ?_ .nil
    · refine Field.reads (fun x (c : ConstructorEntry) => { c with name := x }) (decodes_text _) ?_ ?_ <;>
        simp [partly]
    · refine Field.reads (fun x (c : ConstructorEntry) => { c with parameters := x }) (decodes_texts _) ?_ ?_ <;>
        simp [partly]
  distinct := by simp [forms, FieldForm.plain]
  start := rfl
  whole := by
    intro seen h
    simp only [forms, FieldForm.plain, List.forall_mem_cons] at h
    obtain ⟨hname, hparameters, -⟩ := h
    rw [partly, kept hname, kept hparameters]

/-- What is known of a method after some fields. -/
def MethodEntry.partly (m : MethodEntry) (seen : List String) : MethodEntry where
  name := if "name" ∈ seen then m.name else ""
  isStatic := if "static" ∈ seen then m.isStatic else true
  isFactory := if "factory" ∈ seen then m.isFactory else false
  parameters := if "params" ∈ seen then m.parameters else []
  returns := if "returns" ∈ seen then m.returns else none

theorem MethodEntry.reads (m : MethodEntry) : (MethodEntry.shape true).Reads m.forms m.partly m where
  fields := by
    rw [shape, forms]
    refine .cons ?_ <| .cons ?_ <| .cons ?_ <| .cons ?_ <| .cons ?_ .nil
    · refine Field.reads (fun x (m : MethodEntry) => { m with name := x }) (decodes_text _) ?_ ?_ <;> simp [partly]
    · refine Field.reads (fun x (m : MethodEntry) => { m with isStatic := x }) (decodes_boolean _) ?_ ?_ <;>
        simp [partly]
    · refine Field.reads (fun x (m : MethodEntry) => { m with isFactory := x }) (decodes_boolean _) ?_ ?_ <;>
        simp [partly]
    · refine Field.reads (fun x (m : MethodEntry) => { m with parameters := x }) (decodes_texts _) ?_ ?_ <;>
        simp [partly]
    · refine Field.reads (fun x (m : MethodEntry) => { m with returns := x }) (decodes_optionalText _) ?_ ?_ <;>
        simp [partly]
  distinct := by simp [forms, FieldForm.plain]
  start := rfl
  whole := by
    intro seen h
    simp only [forms, FieldForm.plain, List.forall_mem_cons] at h
    obtain ⟨hname, hstatic, hfactory, hparameters, hreturns, -⟩ := h
    rw [partly, kept fun hn => (hname hn).elim, kept hstatic, kept hfactory, kept hparameters, kept hreturns]

theorem decodes_constructor (c? : Option ConstructorEntry) :
    Decodes (decodeOptional (ConstructorEntry.shape true).decode) (ConstructorWritten c?) c? := by
  intro d us hwritable hd
  cases c? with
  | none =>
    obtain ⟨rfl, rfl⟩ := hd
    rfl
  | some c =>
    have hdecode := c.reads.decodes d us hwritable hd
    obtain ⟨fields, rfl, -⟩ := hd
    rw [Document.record, decodeOptional, ← Document.record, hdecode, verdict_map]
    intro hnull
    cases hnull

/-- What is known of a type after some fields. -/
def TypeEntry.partly (t : TypeEntry) (seen : List String) : TypeEntry where
  name := if "name" ∈ seen then t.name else ""
  isTrait := if "trait" ∈ seen then t.isTrait else false
  isEnum := if "enum" ∈ seen then t.isEnum else false
  isAbstract := if "abstract" ∈ seen then t.isAbstract else false
  unit := if "unit" ∈ seen then t.unit else false
  base := if "base" ∈ seen then t.base else none
  contracts := if "contracts" ∈ seen then t.contracts else []
  disposable := if "disposable" ∈ seen then t.disposable else false
  markers := if "markers" ∈ seen then t.markers else []
  constructor := if "constructor" ∈ seen then t.constructor else none
  methods := if "methods" ∈ seen then t.methods else []

theorem TypeEntry.reads (t : TypeEntry) : (TypeEntry.shape true).Reads t.forms t.partly t where
  fields := by
    rw [shape, forms]
    refine .cons ?_ <| .cons ?_ <| .cons ?_ <| .cons ?_ <| .cons ?_ <| .cons ?_ <| .cons ?_ <| .cons ?_ <| .cons ?_ <|
      .cons ?_ <| .cons ?_ .nil
    · refine Field.reads (fun x (t : TypeEntry) => { t with name := x }) (decodes_text _) ?_ ?_ <;> simp [partly]
    · refine Field.reads (fun x (t : TypeEntry) => { t with isTrait := x }) (decodes_boolean _) ?_ ?_ <;>
        simp [partly]
    · refine Field.reads (fun x (t : TypeEntry) => { t with isEnum := x }) (decodes_boolean _) ?_ ?_ <;> simp [partly]
    · refine Field.reads (fun x (t : TypeEntry) => { t with isAbstract := x }) (decodes_boolean _) ?_ ?_ <;>
        simp [partly]
    · refine Field.reads (fun x (t : TypeEntry) => { t with unit := x }) (decodes_boolean _) ?_ ?_ <;> simp [partly]
    · refine Field.reads (fun x (t : TypeEntry) => { t with base := x }) (decodes_optionalText _) ?_ ?_ <;>
        simp [partly]
    · refine Field.reads (fun x (t : TypeEntry) => { t with contracts := x }) (decodes_texts _) ?_ ?_ <;>
        simp [partly]
    · refine Field.reads (fun x (t : TypeEntry) => { t with disposable := x }) (decodes_boolean _) ?_ ?_ <;>
        simp [partly]
    · refine Field.reads (fun x (t : TypeEntry) => { t with markers := x })
        (decodes_list _ fun e : MarkerEntry => e.reads.decodes) ?_ ?_ <;> simp [partly]
    · refine Field.reads (fun x (t : TypeEntry) => { t with constructor := x }) (decodes_constructor _) ?_ ?_ <;>
        simp [partly]
    · refine Field.reads (fun x (t : TypeEntry) => { t with methods := x })
        (decodes_list _ fun e : MethodEntry => e.reads.decodes) ?_ ?_ <;> simp [partly]
  distinct := by simp [forms, FieldForm.plain, FieldForm.list]
  start := rfl
  whole := by
    intro seen h
    simp only [forms, FieldForm.plain, FieldForm.list, List.forall_mem_cons] at h
    obtain ⟨hname, htrait, henum, habstract, hunit, hbase, hcontracts, hdisposable, hmarkers, hconstructor, hmethods,
      -⟩ := h
    rw [partly, kept fun hn => (hname hn).elim, kept htrait, kept henum, kept habstract, kept hunit, kept hbase,
      kept hcontracts, kept hdisposable, kept hmarkers, kept hconstructor, kept hmethods]

/-- What is known of options after some fields. -/
def Options.partly (o : Options) (seen : List String) : Options where
  moduleName := if "namespace" ∈ seen then o.moduleName else "container"
  rootName := if "provider_name" ∈ seen then o.rootName else "ServiceProvider"
  scopedName := if "scoped_provider_name" ∈ seen then o.scopedName else "ScopedServiceProvider"
  runtimePath := if "runtime_path" ∈ seen then o.runtimePath else "::di_abstractions"
  strictMarkers := if "strict_markers" ∈ seen then o.strictMarkers else false

theorem Options.reads (o : Options) : (Options.shape true).Reads o.forms o.partly o where
  fields := by
    rw [shape, forms]
    refine .cons ?_ <| .cons ?_ <| .cons ?_ <| .cons ?_ <| .cons ?_ .nil
    · refine Field.reads (fun x (o : Options) => { o with moduleName := x }) (decodes_text _) ?_ ?_ <;> simp [partly]
    · refine Field.reads (fun x (o : Options) => { o with rootName := x }) (decodes_text _) ?_ ?_ <;> simp [partly]
    · refine Field.reads (fun x (o : Options) => { o with scopedName := x }) (decodes_text _) ?_ ?_ <;> simp [partly]
    · refine Field.reads (fun x (o : Options) => { o with runtimePath := x }) (decodes_text _) ?_ ?_ <;> simp [partly]
    · refine Field.reads (fun x (o : Options) => { o with strictMarkers := x }) (decodes_boolean _) ?_ ?_ <;>
        simp [partly]
  distinct := by simp [forms, FieldForm.plain]
  start := rfl
  whole := by
    intro seen h
    simp only [forms, FieldForm.plain, List.forall_mem_cons] at h
    obtain ⟨hmodule, hroot, hscoped, hruntime, hstrict, -⟩ := h
    rw [partly, kept hmodule, kept hroot, kept hscoped, kept hruntime, kept hstrict]

/-- What is known of a manifest after some fields. -/
def Manifest.partly (m : Manifest) (seen : List String) : Manifest where
  options := if "generator" ∈ seen then m.options else {}
  types := if "types" ∈ seen then m.types else []

theorem Manifest.reads (m : Manifest) : (Manifest.shape true).Reads m.forms m.partly m where
  fields := by
    rw [shape, forms]
    refine .cons ?_ <| .cons ?_ .nil
    · refine Field.reads (fun x (m : Manifest) => { m with options := x }) m.options.reads.decodes ?_ ?_ <;>
        simp [partly]
    · refine Field.reads (fun x (m : Manifest) => { m with types := x })
        (decodes_list _ fun e : TypeEntry => e.reads.decodes) ?_ ?_ <;> simp [partly]
  distinct := by simp [forms, FieldForm.list]
  start := rfl
  whole := by
    intro seen h
    simp only [forms, FieldForm.list, List.forall_mem_cons] at h
    obtain ⟨hoptions, htypes, -⟩ := h
    rw [partly, kept hoptions, kept htypes]

/-! ### What a further field brings -/

section

variable {name : String} {d d' : Document}

theorem RecordShape.Reads.written_of_added {σ : Type} {shape : RecordShape σ} {forms : List FieldForm}
    {partly : List String → σ} {record : σ} (hreads : shape.Reads forms partly record)
    (h : RecordWritten forms true d []) (hadded : FieldAdded shape.names name d d') :
    RecordWritten forms true d' [name] := by
  rw [RecordShape.names, RecordShape.Reads.names_eq hreads.fields] at hadded
  exact h.fieldAdded hadded

theorem TypeEntry.written_of_added {t : TypeEntry} (h : RecordWritten t.forms true d [])
    (hadded : FieldAddedToType name d d') : RecordWritten t.forms true d' [name] := by
  have hdistinct := t.reads.distinct
  rcases hadded with hadded | hadded | hadded | hadded
  · exact t.reads.written_of_added h hadded
  · have hmarkers : .list "markers" (fun m => RecordWritten m.forms true) t.markers ∈ t.forms := by simp [forms]
    exact h.itemChanged hmarkers hdistinct (fun m d d' hm hadded => m.reads.written_of_added hm hadded) hadded
  · have hconstructor : ⟨"constructor", ConstructorWritten t.constructor, t.constructor = none⟩ ∈ t.forms := by
      simp [forms]
    refine h.fieldChanged hconstructor hdistinct ?_ hadded
    intro d d' hd hadded
    cases hc : t.constructor with
    | none =>
      -- What is written for no constructor is no table, so no field can be added to it.
      rw [hc] at hd
      obtain ⟨-, front, back, value, rfl, -⟩ := hadded
      cases hd.1
    | some c =>
      rw [hc] at hd
      exact c.reads.written_of_added hd hadded
  · have hmethods : .list "methods" (fun m => RecordWritten m.forms true) t.methods ∈ t.forms := by simp [forms]
    exact h.itemChanged hmethods hdistinct (fun m d d' hm hadded => m.reads.written_of_added hm hadded) hadded

theorem Manifest.written_of_added {m : Manifest} (h : m.Written d []) (hadded : FieldAddedToEntry name d d') :
    m.Written d' [name] := by
  have htypes : .list "types" (fun t => RecordWritten t.forms true) m.types ∈ m.forms := by simp [forms]
  exact h.itemChanged htypes m.reads.distinct (fun t d d' ht hadded => t.written_of_added ht hadded) hadded

end

/-! ### The documents of manifests -/

theorem MarkerEntry.written_document (m : MarkerEntry) : RecordWritten m.forms true m.document [] := by
  refine recordWritten_all (m.reads.distinct) ?_
  rw [forms]
  exact .cons ⟨rfl, rfl, rfl⟩ <| .cons ⟨rfl, rfl, rfl⟩ .nil

theorem ConstructorEntry.written_document (c : ConstructorEntry) : RecordWritten c.forms true c.document [] := by
  refine recordWritten_all (c.reads.distinct) ?_
  rw [forms]
  exact .cons ⟨rfl, rfl, rfl⟩ <| .cons ⟨rfl, rfl, rfl⟩ .nil

theorem MethodEntry.written_document (m : MethodEntry) : RecordWritten m.forms true m.document [] := by
  refine recordWritten_all (m.reads.distinct) ?_
  rw [forms]
  exact .cons ⟨rfl, rfl, rfl⟩ <| .cons ⟨rfl, rfl, rfl⟩ <| .cons ⟨rfl, rfl, rfl⟩ <| .cons ⟨rfl, rfl, rfl⟩ <|
    .cons ⟨rfl, rfl, rfl⟩ .nil

theorem TypeEntry.written_document (t : TypeEntry) : RecordWritten t.forms true t.document [] := by
  refine recordWritten_all (t.reads.distinct) ?_
  rw [forms]
  refine .cons ⟨rfl, rfl, rfl⟩ <| .cons ⟨rfl, rfl, rfl⟩ <| .cons ⟨rfl, rfl, rfl⟩ <| .cons ⟨rfl, rfl, rfl⟩ <|
    .cons ⟨rfl, rfl, rfl⟩ <| .cons ⟨rfl, rfl, rfl⟩ <| .cons ⟨rfl, rfl, rfl⟩ <| .cons ⟨rfl, rfl, rfl⟩ <|
    .cons ⟨rfl, _, rfl, ?_⟩ <| .cons ⟨rfl, ?_⟩ <| .cons ⟨rfl, _, rfl, ?_⟩ .nil
  · exact listWritten_map MarkerEntry.written_document t.markers
  · cases t.constructor with
    | none => exact ⟨rfl, rfl⟩
    | some c => exact c.written_document
  · exact listWritten_map MethodEntry.written_document t.methods

theorem Options.written_document (o : Options) : RecordWritten o.forms false o.document [] := by
  refine recordWritten_all (o.reads.distinct) ?_
  rw [forms]
  exact .cons ⟨rfl, rfl, rfl⟩ <| .cons ⟨rfl, rfl, rfl⟩ <| .cons ⟨rfl, rfl, rfl⟩ <| .cons ⟨rfl, rfl, rfl⟩ <|
    .cons ⟨rfl, rfl, rfl⟩ .nil

theorem Manifest.written_document (m : Manifest) : m.Written m.document [] := by
  refine recordWritten_all (m.reads.distinct) ?_
  rw [forms]
  exact .cons ⟨rfl, m.options.written_document⟩ <|
    .cons ⟨rfl, _, rfl, listWritten_map TypeEntry.written_document m.types⟩ .nil

theorem faithful_textsDocument (texts : List String) : Json.Faithful (textsDocument texts) := by
  refine .list fun d hd => ?_
  obtain ⟨s, -, rfl⟩ := List.mem_map.mp hd
  exact .text s

theorem MarkerEntry.faithful_document (m : MarkerEntry) : Json.Faithful m.document := by
  refine .record ?_
  simp only [List.forall_mem_cons]
  exact ⟨.optional _, .optional _, nofun⟩

theorem ConstructorEntry.faithful_document (c : ConstructorEntry) : Json.Faithful c.document := by
  refine .record ?_
  simp only [List.forall_mem_cons]
  exact ⟨.text _, faithful_textsDocument _, nofun⟩

theorem MethodEntry.faithful_document (m : MethodEntry) : Json.Faithful m.document := by
  refine .record ?_
  simp only [List.forall_mem_cons]
  exact ⟨.text _, .boolean _, .boolean _, faithful_textsDocument _, .optional _, nofun⟩

theorem TypeEntry.faithful_document (t : TypeEntry) : Json.Faithful t.document := by
  refine .record ?_
  simp only [List.forall_mem_cons]
  refine ⟨.text _, .boolean _, .boolean _, .boolean _, .boolean _, .optional _, faithful_textsDocument _, .boolean _,
    .list ?_, ?_, .list ?_, nofun⟩
  · exact List.forall_mem_map.mpr fun m _ => m.faithful_document
  · cases t.constructor with
    | none => exact .null
    | some c => exact c.faithful_document
  · exact List.forall_mem_map.mpr fun m _ => m.faithful_document

theorem Options.faithful_document (o : Options) : Json.Faithful o.document := by
  refine .record ?_
  simp only [entries, List.forall_mem_cons]
  exact ⟨.text _, .text _, .text _, .text _, .boolean _, nofun⟩

theorem Manifest.faithful_document (m : Manifest) : Json.Faithful m.document := by
  refine .record ?_
  simp only [List.forall_mem_cons]
  exact ⟨m.options.faithful_document, .list (List.forall_mem_map.mpr fun t _ => t.faithful_document), nofun⟩

/-! ### Reading what was written -/

/-- A text that writes a manifest is read as the manifest, or ends with the first unknown name. -/
theorem Manifest.ofJson_of_written {m : Manifest} {text : String} {d : Document} {us : List String}
    (htext : Json.Writes text d) (hd : m.Written d us) :
    Manifest.ofJson text = (verdict us m).mapError .unparsable := by
  obtain ⟨b, cs, b', hb, hcs, hb', rfl⟩ := htext
  have hdecode := m.reads.decodes d us ⟨cs, hcs⟩ hd
  rw [ofJson, Json.read_of_text hb hcs hb']
  dsimp only
  rw [hdecode]
  cases us <;> rfl

/-- **Reading undoes writing.** Whatever text in JSON writes a manifest, with the fields of each table in any order and
those that hold their defaults there or not, is read as the manifest; the texts that are written of it are such texts. A
text with one field more in an entry is refused. -/
theorem Manifest.reading_undoes_writing (m : Manifest) :
    (∀ text d, Json.Writes text d → m.Written d [] → Manifest.ofJson text = .ok m) ∧
    (∀ text d d' name, Json.Writes text d' → m.Written d [] → FieldAddedToEntry name d d' →
      Manifest.ofJson text = .error (.unparsable (.unknownField name))) ∧
    Manifest.ofJson (Json.compact m.document) = .ok m ∧ Manifest.ofJson (Json.pretty m.document) = .ok m := by
  have hread : ∀ text d, Json.Writes text d → m.Written d [] → Manifest.ofJson text = .ok m := fun text d htext hd =>
    ofJson_of_written htext hd
  refine ⟨hread, fun text d d' name htext hd hadded => ?_, ?_, ?_⟩
  · exact ofJson_of_written htext (written_of_added hd hadded)
  · exact hread _ _ m.faithful_document.writes_compact m.written_document
  · exact hread _ _ m.faithful_document.writes_pretty m.written_document

/-- A marker of an entry. -/
def Sample.clockMarker : MarkerEntry := { lifetime := some "singleton" }

/-- An entry with a marker. -/
def Sample.clockType : TypeEntry := { name := "Clock", markers := [clockMarker] }

/-- A manifest with one entry. -/
def Sample.clockManifest : Manifest := { types := [clockType] }

/-- The marker, with further fields. -/
def Sample.markerDocument (further : List (String × Document)) : Document := .record
  (("lifetime", .text "singleton") :: further)

/-- The manifest, with the fields of the entry in another order, without those that hold their defaults, and with a
field that nobody reads. -/
def Sample.clockDocument (marker : Document) : Document := .record
  [("note", .list [.boolean true]),
   ("types", .list [.record [("markers", .list [marker]), ("name", .text "Clock")]])]

theorem Sample.written_clock : clockManifest.Written (clockDocument (markerDocument [])) [] := by
  have hmarker : RecordWritten clockMarker.forms true (markerDocument []) [] := by
    refine ⟨_, rfl, .known (f := .plain "lifetime" (.optional clockMarker.lifetime) (clockMarker.lifetime = none))
      List.mem_cons_self ⟨rfl, rfl⟩ (by decide) .nil, ?_⟩
    simp [MarkerEntry.forms, FieldForm.plain, clockMarker]
  have htype : RecordWritten clockType.forms true
      (.record [("markers", .list [markerDocument []]), ("name", .text "Clock")]) [] := by
    refine ⟨_, rfl, .known (f := .list "markers" (fun m => RecordWritten m.forms true) clockType.markers)
      (by simp [TypeEntry.forms]) ⟨_, rfl, .cons hmarker .nil⟩ (by decide) ?_, ?_⟩
    · exact .known (f := .plain "name" (.text clockType.name) False) List.mem_cons_self ⟨rfl, rfl⟩ (by decide) .nil
    · simp [TypeEntry.forms, FieldForm.plain, FieldForm.list, clockType]
  refine ⟨_, rfl, .other (by simp [Manifest.forms, FieldForm.list]) ?_, ?_⟩
  · exact .known (f := .list "types" (fun t => RecordWritten t.forms true) clockManifest.types)
      (List.mem_cons_of_mem _ List.mem_cons_self) ⟨_, rfl, .cons htype .nil⟩ (by decide) .nil
  · simp [Manifest.forms, FieldForm.list, clockManifest]

theorem Sample.faithful_clockDocument {further : List (String × Document)} (h : ∀ f ∈ further, Json.Faithful f.2) :
    Json.Faithful (clockDocument (markerDocument further)) := by
  have hmarker : Json.Faithful (markerDocument further) := .record (List.forall_mem_cons.mpr ⟨.text _, h⟩)
  have hentry : Json.Faithful (.record [("markers", .list [markerDocument further]), ("name", .text "Clock")]) :=
    .record (by simpa using ⟨.list (by simpa using hmarker), .text "Clock"⟩)
  exact .record (by simpa using ⟨.list (by simpa using .boolean true), .list (by simpa using hentry)⟩)

theorem Manifest.reading_undoes_writing_clock :
    Manifest.ofJson (Json.compact (Sample.clockDocument (Sample.markerDocument []))) = .ok Sample.clockManifest ∧
    Manifest.ofJson (Json.pretty (Sample.clockDocument (Sample.markerDocument [("since", .text "1.0")]))) =
      .error (.unparsable (.unknownField "since")) ∧
    Manifest.ofJson (Json.pretty Sample.clockManifest.document) = .ok Sample.clockManifest := by
  obtain ⟨hread, hadded, -, hpretty⟩ := reading_undoes_writing Sample.clockManifest
  have hplain := Sample.faithful_clockDocument fun f (hf : f ∈ []) => nomatch hf
  have hfurther : ∀ f ∈ [("since", Document.text "1.0")], Json.Faithful f.2 := by simpa using .text "1.0"
  refine ⟨hread _ _ hplain.writes_compact Sample.written_clock, ?_, hpretty⟩
  refine hadded _ _ _ _ (Sample.faithful_clockDocument hfurther).writes_pretty Sample.written_clock ?_
  refine ⟨_, _, rfl, rfl, .there (.here ⟨rfl, rfl, _, _, rfl, rfl, .here (.inr (.inl ?_))⟩)⟩
  refine ⟨_, _, rfl, rfl, .here ⟨rfl, rfl, _, _, rfl, rfl, .here ?_⟩⟩
  exact ⟨by decide, [("lifetime", .text "singleton")], [], .text "1.0", rfl, rfl⟩

end ServiceContainer
