import Mathlib.Data.List.Nodup
import ServiceContainer.Diagnostic
import ServiceContainer.Proofs.JsonText

/-!
# Records as documents, in any order of their fields

A record is written as a table of its fields, which may stand in any order; a field that holds its default may be left
out. A table may have fields beside these. Where it must not, their names are collected in the order of the text, and
the first of them is what decoding ends with.

## Main definitions

* `FieldForm` — how a field is written
* `RecordWritten` — a document writes the record whose fields have given forms
* `RecordShape.Reads` — decoding by a shape fits the forms of a record

## Main statements

* `RecordShape.Reads.decodes` — decoding gives the record that a document writes, or its first unknown name
-/

namespace ServiceContainer

/-- How a field of a record is written. -/
structure FieldForm where
  name : String
  /-- A document writes the value of the field; these are the unknown names in it. -/
  Writes : Document → List String → Prop
  /-- The field may be left out, because it holds its default. -/
  Omissible : Prop

/-- A field whose value is written by one document. -/
def FieldForm.plain (name : String) (value : Document) (omissible : Prop) : FieldForm :=
  ⟨name, fun d us => d = value ∧ us = [], omissible⟩

/-- Documents write the values of a list, each the one in its place. -/
inductive ListWritten {α : Type} (Writes : α → Document → List String → Prop) :
    List α → List Document → List String → Prop
  | nil : ListWritten Writes [] [] []
  | cons {x : α} {xs : List α} {d : Document} {ds : List Document} {us us' : List String} (h : Writes x d us)
      (hrest : ListWritten Writes xs ds us') : ListWritten Writes (x :: xs) (d :: ds) (us ++ us')

/-- A field whose value is a list. -/
def FieldForm.list {α : Type} (name : String) (Writes : α → Document → List String → Prop) (xs : List α) : FieldForm :=
  ⟨name, fun d us => ∃ ds, d = .list ds ∧ ListWritten Writes xs ds us, xs = []⟩

/-- Fields write values of a record, each at most once. The names of other fields are collected in a record that is
closed. -/
inductive FieldsWritten (forms : List FieldForm) (closed : Bool) :
    List (String × Document) → List String → Prop
  | nil : FieldsWritten forms closed [] []
  | known {f : FieldForm} {d : Document} {fields : List (String × Document)} {us us' : List String} (hf : f ∈ forms)
      (hd : f.Writes d us) (hfresh : f.name ∉ fields.map (·.1)) (hrest : FieldsWritten forms closed fields us') :
      FieldsWritten forms closed ((f.name, d) :: fields) (us ++ us')
  | other {name : String} {d : Document} {fields : List (String × Document)} {us : List String}
      (hname : name ∉ forms.map FieldForm.name) (hrest : FieldsWritten forms closed fields us) :
      FieldsWritten forms closed ((name, d) :: fields) (if closed then name :: us else us)

/-- A document writes the record whose fields have the forms: fields that hold no default are there. -/
def RecordWritten (forms : List FieldForm) (closed : Bool) (d : Document) (us : List String) : Prop :=
  ∃ fields, d = .record fields ∧ FieldsWritten forms closed fields us ∧
    ∀ f ∈ forms, f.name ∉ fields.map (·.1) → f.Omissible

/-- A record is written by a table of all its fields in their order. -/
theorem recordWritten_all {forms : List FieldForm} {closed : Bool} {fields : List (String × Document)}
    (hdistinct : (forms.map FieldForm.name).Nodup)
    (h : List.Forall₂ (fun f x => x.1 = f.name ∧ f.Writes x.2 []) forms fields) :
    RecordWritten forms closed (.record fields) [] := by
  have hnames : fields.map (·.1) = forms.map FieldForm.name := by
    induction h with
    | nil => rfl
    | cons hx hrest ih => rw [List.map_cons, List.map_cons, hx.1, ih (List.nodup_cons.mp hdistinct).2]
  have hfields : ∀ {some : List FieldForm} {fields : List (String × Document)},
      List.Forall₂ (fun f x => x.1 = f.name ∧ f.Writes x.2 []) some fields → (∀ f ∈ some, f ∈ forms) →
      (fields.map (·.1)).Nodup → FieldsWritten forms closed fields [] := by
    intro some fields h hsome hnodup
    induction h with
    | nil => exact .nil
    | @cons f x some fields hx hrest ih =>
      rw [List.map_cons, List.nodup_cons] at hnodup
      obtain ⟨name, d⟩ := x
      obtain ⟨rfl, hd⟩ := hx
      exact .known (hsome f List.mem_cons_self) hd hnodup.1
        (ih (fun g hg => hsome g (List.mem_cons_of_mem _ hg)) hnodup.2)
  refine ⟨fields, rfl, hfields h (fun _ hf => hf) (hnames ▸ hdistinct), fun f hf hmissing => ?_⟩
  rw [hnames] at hmissing
  exact absurd (List.mem_map_of_mem hf) hmissing

theorem listWritten_map {α : Type} {Writes : α → Document → List String → Prop} {document : α → Document}
    (h : ∀ x, Writes x (document x) []) (xs : List α) : ListWritten Writes xs (xs.map document) [] := by
  induction xs with
  | nil => exact .nil
  | cons x xs ih => exact .cons (h x) ih

/-! ### One field more -/

/-- Two lists differ in one place. -/
inductive OneChanged {α : Type} (Changed : α → α → Prop) : List α → List α → Prop
  | here {x y : α} {xs : List α} (h : Changed x y) : OneChanged Changed (x :: xs) (y :: xs)
  | there {x : α} {xs ys : List α} (h : OneChanged Changed xs ys) : OneChanged Changed (x :: xs) (x :: ys)

/-- A table has one field more, whose name is none of those that are known. -/
def FieldAdded (known : List String) (name : String) (d d' : Document) : Prop :=
  name ∉ known ∧ ∃ front back value,
    d = .record (front ++ back) ∧ d' = .record (front ++ (name, value) :: back)

/-- Two tables differ in the value of a field. -/
def FieldChanged (field : String) (Changed : Document → Document → Prop) (d d' : Document) : Prop :=
  ∃ fields fields', d = .record fields ∧ d' = .record fields' ∧
    OneChanged (fun x y => x.1 = field ∧ y.1 = field ∧ Changed x.2 y.2) fields fields'

/-- Two lists differ in one item. -/
def ItemChanged (Changed : Document → Document → Prop) (d d' : Document) : Prop :=
  ∃ ds ds', d = .list ds ∧ d' = .list ds' ∧ OneChanged Changed ds ds'

section

variable {forms : List FieldForm} {closed : Bool} {name : String} {d d' : Document} {us : List String}

/-- The first field of a table without unknown names has a known name, or the record is open. -/
theorem FieldsWritten.cons_nil {field : String} {fields : List (String × Document)}
    (h : FieldsWritten forms closed ((field, d) :: fields) []) :
    (∃ f ∈ forms, f.name = field ∧ f.Writes d [] ∧ field ∉ fields.map (·.1) ∧ FieldsWritten forms closed fields []) ∨
      closed = false ∧ field ∉ forms.map FieldForm.name ∧ FieldsWritten forms closed fields [] := by
  generalize hus : ([] : List String) = us at h
  cases h with
  | @known f d fields us us' hf hd hfresh hrest =>
    obtain ⟨rfl, rfl⟩ := List.append_eq_nil_iff.mp hus.symm
    exact .inl ⟨f, hf, rfl, hd, hfresh, hrest⟩
  | other hfield hrest =>
    cases closed with
    | true => cases hus
    | false =>
      rw [if_neg Bool.false_ne_true] at hus
      subst hus
      exact .inr ⟨rfl, hfield, hrest⟩

theorem ListWritten.cons_nil {α : Type} {Writes : α → Document → List String → Prop} {xs : List α} {ds : List Document}
    (h : ListWritten Writes xs (d :: ds) []) :
    ∃ x rest, xs = x :: rest ∧ Writes x d [] ∧ ListWritten Writes rest ds [] := by
  generalize hus : ([] : List String) = us at h
  cases h with
  | @cons x rest d ds us us' hx hrest =>
    obtain ⟨rfl, rfl⟩ := List.append_eq_nil_iff.mp hus.symm
    exact ⟨x, rest, rfl, hx, hrest⟩

theorem FieldsWritten.insert {front back : List (String × Document)} (value : Document)
    (h : FieldsWritten forms true (front ++ back) []) (hname : name ∉ forms.map FieldForm.name) :
    FieldsWritten forms true (front ++ (name, value) :: back) [name] := by
  induction front with
  | nil => exact .other hname h
  | cons x front ih =>
    rw [List.cons_append] at h ⊢
    obtain ⟨field, d⟩ := x
    rcases h.cons_nil with ⟨f, hf, rfl, hd, hfresh, hrest⟩ | ⟨hopen, -⟩
    · change FieldsWritten forms true _ ([] ++ [name])
      refine .known hf hd ?_ (ih hrest)
      simp only [List.map_append, List.map_cons, List.mem_append, List.mem_cons, not_or] at hfresh ⊢
      exact ⟨hfresh.1, fun heq => hname (heq ▸ List.mem_map_of_mem hf), hfresh.2⟩
    · cases hopen

/-- A field that is added to a closed record is the one that is unknown. -/
theorem RecordWritten.fieldAdded (h : RecordWritten forms true d [])
    (hadded : FieldAdded (forms.map FieldForm.name) name d d') : RecordWritten forms true d' [name] := by
  obtain ⟨hname, front, back, value, rfl, rfl⟩ := hadded
  obtain ⟨fields, hfields, hwritten, homissible⟩ := h
  obtain ⟨rfl, -⟩ := Document.table.inj hfields
  refine ⟨_, rfl, hwritten.insert value hname, fun f hf hmissing => homissible f hf fun hmem => hmissing ?_⟩
  simp only [List.map_append, List.map_cons, List.mem_append, List.mem_cons] at hmem ⊢
  exact hmem.imp_right .inr

theorem OneChanged.names_eq {field : String} {Changed : Document → Document → Prop}
    {fields fields' : List (String × Document)}
    (h : OneChanged (fun x y => x.1 = field ∧ y.1 = field ∧ Changed x.2 y.2) fields fields') :
    fields'.map (·.1) = fields.map (·.1) := by
  induction h with
  | here h => rw [List.map_cons, List.map_cons, h.1, h.2.1]
  | there h ih => rw [List.map_cons, List.map_cons, ih]

theorem FieldsWritten.change {f : FieldForm} {Changed : Document → Document → Prop}
    {fields fields' : List (String × Document)} (h : FieldsWritten forms closed fields []) (hf : f ∈ forms)
    (hdistinct : (forms.map FieldForm.name).Nodup)
    (hlift : ∀ d d', f.Writes d [] → Changed d d' → f.Writes d' [name])
    (hchanged : OneChanged (fun x y => x.1 = f.name ∧ y.1 = f.name ∧ Changed x.2 y.2) fields fields') :
    FieldsWritten forms closed fields' [name] := by
  induction hchanged with
  | @here x y xs hxy =>
    obtain ⟨xname, d⟩ := x
    obtain ⟨yname, d'⟩ := y
    obtain ⟨rfl, rfl, hxy⟩ := hxy
    rcases h.cons_nil with ⟨g, hg, hname, hd, hfresh, hrest⟩ | ⟨-, hother, -⟩
    · -- Names are distinct, so the value that changes has the form of the field.
      obtain rfl : f = g := List.inj_on_of_nodup_map hdistinct hf hg hname.symm
      change FieldsWritten forms closed _ ([name] ++ [])
      exact .known hf (hlift d d' hd hxy) hfresh hrest
    · exact absurd (List.mem_map_of_mem hf) hother
  | @there x xs ys hrest ih =>
    obtain ⟨field, d⟩ := x
    rcases h.cons_nil with ⟨g, hg, rfl, hd, hfresh, hwritten⟩ | ⟨rfl, hother, hwritten⟩
    · change FieldsWritten forms closed _ ([] ++ [name])
      exact .known hg hd (hrest.names_eq ▸ hfresh) (ih hwritten)
    · exact .other hother (ih hwritten)

/-- A change of the value of a field that brings an unknown name brings it to the record. -/
theorem RecordWritten.fieldChanged {f : FieldForm} {Changed : Document → Document → Prop}
    (h : RecordWritten forms closed d []) (hf : f ∈ forms) (hdistinct : (forms.map FieldForm.name).Nodup)
    (hlift : ∀ d d', f.Writes d [] → Changed d d' → f.Writes d' [name]) (hchanged : FieldChanged f.name Changed d d') :
    RecordWritten forms closed d' [name] := by
  obtain ⟨fields, hfields, hwritten, homissible⟩ := h
  obtain ⟨fields₁, fields', rfl, rfl, hchanged⟩ := hchanged
  obtain ⟨rfl, -⟩ := Document.table.inj hfields
  refine ⟨_, rfl, hwritten.change hf hdistinct hlift hchanged, fun g hg hmissing => homissible g hg ?_⟩
  rwa [hchanged.names_eq] at hmissing

/-- A change of one item that brings an unknown name brings it to the list. -/
theorem ListWritten.itemChanged {α : Type} {Writes : α → Document → List String → Prop} {xs : List α}
    {Changed : Document → Document → Prop} (hlift : ∀ x d d', Writes x d [] → Changed d d' → Writes x d' [name])
    {ds ds' : List Document} (h : ListWritten Writes xs ds []) (hchanged : OneChanged Changed ds ds') :
    ListWritten Writes xs ds' [name] := by
  induction hchanged generalizing xs with
  | here hxy =>
    obtain ⟨x, rest, rfl, hx, hrest⟩ := h.cons_nil
    change ListWritten Writes _ _ ([name] ++ [])
    exact .cons (hlift _ _ _ hx hxy) hrest
  | there hchanged ih =>
    obtain ⟨x, rest, rfl, hx, hrest⟩ := h.cons_nil
    change ListWritten Writes _ _ ([] ++ [name])
    exact .cons hx (ih hrest)

/-- A change of one item of a field that is a list brings an unknown name to the record. -/
theorem RecordWritten.itemChanged {α : Type} {Writes : α → Document → List String → Prop} {xs : List α} {field : String}
    {Changed : Document → Document → Prop} (h : RecordWritten forms closed d [])
    (hf : FieldForm.list field Writes xs ∈ forms) (hdistinct : (forms.map FieldForm.name).Nodup)
    (hlift : ∀ x d d', Writes x d [] → Changed d d' → Writes x d' [name])
    (hchanged : FieldChanged field (ItemChanged Changed) d d') : RecordWritten forms closed d' [name] := by
  refine h.fieldChanged hf hdistinct ?_ hchanged
  rintro d d' ⟨ds, rfl, hds⟩ ⟨ds₁, ds', hlist, rfl, hitems⟩
  obtain ⟨rfl, -⟩ := Document.array.inj hlist
  exact ⟨ds', rfl, hds.itemChanged hlift hitems⟩

end

/-! ### What decoding gives -/

/-- The value, unless there is an unknown name. -/
def verdict {α : Type} : List String → α → Decoded α
  | [], x => .ok x
  | name :: _, _ => .error (.unknownField name)

variable {α β σ : Type} {us us' : List String}

theorem verdict_bind {x : α} {f : α → Decoded β} {y : β} (h : f x = verdict us' y) :
    (verdict us x >>= f) = verdict (us ++ us') y := by
  cases us with
  | nil => exact h
  | cons name us => rfl

theorem verdict_map (f : α → β) (x : α) : (verdict us x).map f = verdict us (f x) := by
  cases us <;> rfl

/-- What the documents write is decoded as a value. -/
def Decodes (decode : Document → Decoded α) (Writes : Document → List String → Prop) (x : α) : Prop :=
  ∀ d us, Json.Writable d → Writes d us → decode d = verdict us x

/-- Decoding of a list whose items are decoded. -/
theorem mapM_eq_verdict {Writes : α → Document → List String → Prop} {decode : Document → Decoded α} {xs : List α}
    {ds : List Document} (h : ListWritten Writes xs ds us) (hwritable : ∀ d ∈ ds, Json.Writable d)
    (hdecode : ∀ x, Decodes decode (Writes x) x) : ds.mapM decode = verdict us xs := by
  induction h with
  | nil => rfl
  | @cons x xs d ds us us' hx hrest ih =>
    obtain ⟨hd, hds⟩ := List.forall_mem_cons.mp hwritable
    rw [List.mapM_cons, hdecode x d us hd hx]
    refine verdict_bind ?_
    rw [ih hds]
    cases us' <;> rfl

theorem decodes_list {Writes : α → Document → List String → Prop} {decode : Document → Decoded α} (xs : List α)
    (hdecode : ∀ x, Decodes decode (Writes x) x) :
    Decodes (Document.decodeList decode) (fun d us => ∃ ds, d = .list ds ∧ ListWritten Writes xs ds us) xs := by
  rintro d us hwritable ⟨ds, rfl, hds⟩
  rw [Document.list, Document.decodeList, mapM_eq_verdict hds hwritable.items hdecode]
  cases us <;> rfl

/-- Decoding of a field fits its form: what has been decoded after some fields depends on their names only, and the
field adds its own. -/
structure Field.Reads (partly : List String → σ) (field : Field σ) (f : FieldForm) : Prop where
  name : field.name = f.name
  required : field.required = true → ¬f.Omissible
  put : ∀ d us seen, Json.Writable d → f.Writes d us → field.put d (partly seen) = verdict us (partly (f.name :: seen))

/-- A field fits its form whose values are decoded and put into the record. -/
theorem Field.reads {partly : List String → σ} {name : String} {required : Bool} {omissible : Prop}
    {decode : Document → Decoded α} {Writes : Document → List String → Prop} {x : α} (set : α → σ → σ)
    (hdecode : Decodes decode Writes x) (hset : ∀ seen, set x (partly seen) = partly (name :: seen))
    (hrequired : required = true → ¬omissible) :
    Field.Reads partly ⟨name, required, fun d r => do return set (← decode d) r⟩ ⟨name, Writes, omissible⟩ where
  name := rfl
  required := hrequired
  put := by
    intro d us seen hwritable hd
    dsimp only
    rw [hdecode d us hwritable hd, ← hset seen]
    cases us <;> rfl

/-- Decoding by a shape fits the forms of a record: that of each field does, and the record is what has been decoded
when the missing fields hold their defaults. -/
structure RecordShape.Reads (shape : RecordShape σ) (forms : List FieldForm) (partly : List String → σ) (record : σ) :
    Prop where
  fields : List.Forall₂ (Field.Reads partly) shape.fields forms
  distinct : (forms.map FieldForm.name).Nodup
  start : partly [] = shape.start
  whole : ∀ seen, (∀ f ∈ forms, f.name ∉ seen → f.Omissible) → partly seen = record

namespace RecordShape.Reads

variable {shape : RecordShape σ} {forms : List FieldForm} {partly : List String → σ} {record : σ}

/-- The field of a name is the one with the form of that name. -/
theorem find?_eq_some {fields : List (Field σ)} (h : List.Forall₂ (Field.Reads partly) fields forms)
    (hdistinct : (forms.map FieldForm.name).Nodup) {f : FieldForm} (hf : f ∈ forms) :
    ∃ field, fields.find? (·.name == f.name) = some field ∧ field.Reads partly f := by
  induction h with
  | nil => exact nomatch hf
  | @cons field g fields forms hfield hrest ih =>
    rw [List.map_cons, List.nodup_cons] at hdistinct
    rcases List.mem_cons.mp hf with rfl | hf
    · exact ⟨field, by simp [hfield.name], hfield⟩
    · have hne : g.name ≠ f.name := fun heq => hdistinct.1 (heq ▸ List.mem_map_of_mem hf)
      obtain ⟨found, hfind, hfound⟩ := ih hdistinct.2 hf
      exact ⟨found, by simp [hfield.name, hne, hfind], hfound⟩

theorem names_eq {fields : List (Field σ)} (h : List.Forall₂ (Field.Reads partly) fields forms) :
    fields.map (·.name) = forms.map FieldForm.name := by
  induction h with
  | nil => rfl
  | cons hfield hrest ih => rw [List.map_cons, List.map_cons, hfield.name, ih]

theorem exists_form {fields : List (Field σ)} (h : List.Forall₂ (Field.Reads partly) fields forms) {field : Field σ}
    (hfield : field ∈ fields) : ∃ f ∈ forms, field.Reads partly f := by
  induction h with
  | nil => exact nomatch hfield
  | cons hreads hrest ih =>
    rcases List.mem_cons.mp hfield with rfl | hfield
    · exact ⟨_, List.mem_cons_self, hreads⟩
    · obtain ⟨f, hf, hreads⟩ := ih hfield
      exact ⟨f, List.mem_cons_of_mem _ hf, hreads⟩

theorem find?_eq_none {fields : List (Field σ)} (h : List.Forall₂ (Field.Reads partly) fields forms) {name : String}
    (hname : name ∉ forms.map FieldForm.name) : fields.find? (·.name == name) = none := by
  induction h with
  | nil => rfl
  | @cons field g fields forms hfield hrest ih =>
    rw [List.map_cons, List.mem_cons, not_or] at hname
    rw [List.find?_cons_of_neg (by simpa [hfield.name] using Ne.symm hname.1), ih hname.2]

/-- The fields of a table are decoded as far as there is no unknown name. -/
theorem decodeFields_eq (h : shape.Reads forms partly record) {fields : List (String × Document)}
    (hfields : FieldsWritten forms shape.closed fields us) (hwritable : ∀ x ∈ fields, Json.Writable x.2)
    {seen : List String} (hseen : ∀ name ∈ seen, name ∉ fields.map (·.1)) :
    ∃ seen', shape.decodeFields seen (partly seen) fields = verdict us (seen', partly seen') ∧
      ∀ f ∈ forms, f.name ∈ seen' ↔ f.name ∈ seen ∨ f.name ∈ fields.map (·.1) := by
  -- The fields that are left have none of the names that were seen, so none is met twice.
  induction hfields generalizing seen with
  | nil => exact ⟨seen, rfl, fun f hf => by simp⟩
  | @known f d fields us us' hf hd hfresh hrest ih =>
    obtain ⟨hwritable, hwritables⟩ := List.forall_mem_cons.mp hwritable
    obtain ⟨field, hfind, hfield⟩ := find?_eq_some h.fields h.distinct hf
    have hnew : f.name ∉ seen := fun hmem => hseen _ hmem List.mem_cons_self
    have hseen' : ∀ name ∈ f.name :: seen, name ∉ fields.map (·.1) :=
      List.forall_mem_cons.mpr ⟨hfresh, fun name hname hmem => hseen name hname (List.mem_cons_of_mem _ hmem)⟩
    obtain ⟨seen', hdecode, hnames⟩ := ih hwritables hseen'
    refine ⟨seen', ?_, fun g hg => ?_⟩
    · rw [decodeFields, hfind]
      simp only [List.contains_eq_mem, hnew, decide_false, Bool.false_eq_true, if_false]
      rw [hfield.put d us seen hwritable hd]
      exact verdict_bind hdecode
    · rw [hnames g hg, List.map_cons, List.mem_cons, List.mem_cons]
      tauto
  | @other name d fields us hname hrest ih =>
    obtain ⟨⟨cs, htext⟩, hwritables⟩ := List.forall_mem_cons.mp hwritable
    obtain ⟨seen', hdecode, hnames⟩ := ih hwritables fun name hname hmem =>
      hseen name hname (List.mem_cons_of_mem _ hmem)
    refine ⟨seen', ?_, fun g hg => ?_⟩
    · rw [decodeFields, find?_eq_none h.fields hname]
      cases hclosed : shape.closed with
      | true => rfl
      | false =>
        simp only [Bool.false_eq_true, if_false, htext.skip_eq]
        exact hdecode
    · rw [hnames g hg, List.map_cons, List.mem_cons]
      have hne : g.name ≠ name := by
        rintro rfl
        exact hname (List.mem_map_of_mem hg)
      simp [hne]

/-- A document that writes a record is decoded as the record, or as the first of its unknown names. -/
theorem decodes (h : shape.Reads forms partly record) :
    Decodes shape.decode (RecordWritten forms shape.closed) record := by
  rintro d us hwritable ⟨fields, rfl, hfields, homissible⟩
  have hnone : ∀ name ∈ ([] : List String), name ∉ fields.map (·.1) := fun name hname => nomatch hname
  obtain ⟨seen, hdecode, hnames⟩ := h.decodeFields_eq hfields hwritable.fields hnone
  have homitted : ∀ f ∈ forms, f.name ∉ seen → f.Omissible := fun f hf hmem => by
    refine homissible f hf fun hfield => hmem ?_
    exact (hnames f hf).mpr (.inr hfield)
  have hmissing : shape.missing? seen = none := by
    rw [missing?, Option.map_eq_none_iff, List.find?_eq_none]
    intro field hfield hmissing
    obtain ⟨f, hf, hreads⟩ := exists_form h.fields hfield
    simp only [Bool.and_eq_true, Bool.not_eq_true', List.contains_eq_mem, decide_eq_false_iff_not] at hmissing
    exact hreads.required hmissing.1 (homitted f hf (hreads.name ▸ hmissing.2))
  rw [h.start] at hdecode
  rw [Document.record, decode, hdecode]
  cases us with
  | nil =>
    rw [← h.whole seen homitted]
    simp [verdict, bind, Except.bind, Document.ifWhole, hmissing]
  | cons name us => rfl

end RecordShape.Reads

end ServiceContainer
