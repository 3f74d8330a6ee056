import ServiceContainer.Json.Writer
import ServiceContainer.Proofs.JsonText

/-!
# Documents are what their own texts write

A document is written on one line, or indented. What a string literal needs is escaped, and the rest is white space
between the parts; so both texts are texts of the document in the grammar, as far as it consists of what manifests
consist of.

## Main definitions

* `Json.Faithful` — both texts of a document write it

## Main statements

* `Json.chars_escape` — a string is what its literal writes
* `Json.Faithful.list`, `Json.Faithful.record` — lists and tables of such documents are such documents
-/

namespace ServiceContainer.Json

/-- The text of a document on one line and the indented ones write the document. -/
def Faithful (d : Document) : Prop := Text d (compactChars d) ∧ ∀ depth, Text d (prettyChars depth d)

/-! ### Strings -/

theorem isBlank_nil : IsBlank [] := fun _ hc => nomatch hc

theorem hexValue?_digitChar : ∀ n < 16, hexValue? (Nat.digitChar n) = some n := by decide

theorem isQuartet_byteDigits {n : Nat} (h : n < 256) : IsQuartet n ('0' :: '0' :: byteDigits n) := by
  refine ⟨'0', '0', _, _, 0, 0, n / 16, n % 16, rfl, rfl, rfl, hexValue?_digitChar _ (by omega),
    hexValue?_digitChar _ (by omega), by omega⟩

/-- A character that is escaped where it has to be stands before what is left of a string. -/
theorem chars_escapeChar (c : Char) {xs cs : List Char} (h : Chars (some xs) cs) :
    Chars (some (c :: xs)) (escapeChar c ++ cs) := by
  simp only [escapeChar, beq_iff_eq]
  by_cases hquote : c = '\x22'
  · subst hquote
    exact .short rfl h
  rw [if_neg hquote]
  by_cases hslash : c = '\\'
  · subst hslash
    exact .short rfl h
  rw [if_neg hslash]
  -- Five more characters have letters of their own.
  iterate 5
    split
    · subst c
      exact .short rfl h
  split
  next hcontrol =>
    -- Control characters have numbers far below those of the surrogates.
    have hunit := Chars.unit (isQuartet_byteDigits (n := c.toNat) (by omega)) (by simp only [IsHigh]; omega)
      (by simp only [IsLow]; omega) h
    rw [Char.ofNat_toNat] at hunit
    exact hunit
  next hcontrol => exact .plain hquote hslash (by omega) h

theorem chars_escape (xs : List Char) : Chars (some xs) (xs.flatMap escapeChar) := by
  induction xs with
  | nil => exact .nil
  | cons c xs ih => exact chars_escapeChar c ih

/-! ### Single values -/

theorem text_scalarText (s : String) : Text (.text s) (stringChars s) := by
  have htext := Text.string (chars_escape s.toList)
  rwa [String.ofList_toList] at htext

theorem Faithful.text (s : String) : Faithful (.text s) := ⟨text_scalarText s, fun _ => text_scalarText s⟩

theorem Faithful.null : Faithful .null := ⟨.null, fun _ => .null⟩

theorem Faithful.boolean (b : Bool) : Faithful (.boolean b) := ⟨.boolean b, fun _ => .boolean b⟩

theorem Faithful.optional (s : Option String) : Faithful (.optional s) := by
  cases s with
  | none => exact .null
  | some s => exact .text s

/-! ### Lists and tables -/

theorem isBlank_newLine (depth : Nat) : IsBlank (newLine depth) := by
  rintro c (_ | ⟨_, hc⟩)
  · decide
  · rw [List.eq_of_mem_replicate hc]
    decide

theorem isBlank_space : IsBlank [' '] := by
  rintro c (_ | ⟨_, ⟨⟩⟩)
  decide

theorem items_compactItems {d : Document} {ds : List Document} (h : ∀ x ∈ d :: ds, Text x (compactChars x)) :
    Items (d :: ds) (compactItems (d :: ds)) := by
  induction ds generalizing d with
  | nil => simpa [compactItems] using Items.one isBlank_nil (h d List.mem_cons_self) isBlank_nil
  | cons d' ds ih =>
    obtain ⟨hd, hds⟩ := List.forall_mem_cons.mp h
    simpa [compactItems] using Items.cons isBlank_nil hd isBlank_nil (ih hds)

theorem items_prettyItems (depth : Nat) {d : Document} {ds : List Document} {b : List Char} (hb : IsBlank b)
    (h : ∀ x ∈ d :: ds, Text x (prettyChars depth x)) : Items (d :: ds) (prettyItems depth (d :: ds) ++ b) := by
  induction ds generalizing d with
  | nil => simpa [prettyItems] using Items.one (isBlank_newLine depth) (h d List.mem_cons_self) hb
  | cons d' ds ih =>
    obtain ⟨hd, hds⟩ := List.forall_mem_cons.mp h
    simpa [prettyItems] using Items.cons (isBlank_newLine depth) hd isBlank_nil (ih hds)

theorem Faithful.list {ds : List Document} (h : ∀ d ∈ ds, Faithful d) : Faithful (.list ds) := by
  cases ds with
  | nil => exact ⟨.emptyArray isBlank_nil, fun _ => .emptyArray isBlank_nil⟩
  | cons d ds =>
    refine ⟨?_, fun depth => ?_⟩
    · have hitems := items_compactItems fun x hx => (h x hx).1
      simpa [Document.list, compactChars] using Text.array hitems
    · have hitems := items_prettyItems (depth + 1) (isBlank_newLine depth) fun x hx => (h x hx).2 (depth + 1)
      simpa [Document.list, prettyChars] using Text.array hitems

/-- Fields as they are written, all of whose names are whole. -/
def spelled (fs : List (String × Document)) : List (Option (List Char) × Document) :=
  fs.map fun f => (some f.1.toList, f.2)

theorem table_spelled (fs : List (String × Document)) :
    (endingOf (spelled fs)).table (named (spelled fs)) = .record fs := by
  have hending : endingOf (spelled fs) = .whole := by simp [endingOf, spelled]
  have hnamed : named (spelled fs) = fs := by
    induction fs with
    | nil => rfl
    | cons f fs ih => simp_all [spelled, named, endingOf]
  rw [hending, hnamed]
  rfl

theorem fields_compactFields {f : String × Document} {fs : List (String × Document)}
    (h : ∀ x ∈ f :: fs, Text x.2 (compactChars x.2)) : Fields (spelled (f :: fs)) (compactFields (f :: fs)) := by
  induction fs generalizing f with
  | nil =>
    simpa [compactFields, spelled, stringChars] using Fields.one isBlank_nil (chars_escape f.1.toList) isBlank_nil
      isBlank_nil (h f List.mem_cons_self) isBlank_nil
  | cons f' fs ih =>
    obtain ⟨hf, hfs⟩ := List.forall_mem_cons.mp h
    simpa [compactFields, spelled, stringChars] using Fields.cons isBlank_nil (chars_escape f.1.toList) isBlank_nil
      isBlank_nil hf isBlank_nil (ih hfs)

theorem fields_prettyFields (depth : Nat) {f : String × Document} {fs : List (String × Document)} {b : List Char}
    (hb : IsBlank b) (h : ∀ x ∈ f :: fs, Text x.2 (prettyChars depth x.2)) :
    Fields (spelled (f :: fs)) (prettyFields depth (f :: fs) ++ b) := by
  induction fs generalizing f with
  | nil =>
    simpa [prettyFields, spelled, stringChars] using Fields.one (isBlank_newLine depth) (chars_escape f.1.toList)
      isBlank_nil isBlank_space (h f List.mem_cons_self) hb
  | cons f' fs ih =>
    obtain ⟨hf, hfs⟩ := List.forall_mem_cons.mp h
    simpa [prettyFields, spelled, stringChars] using Fields.cons (isBlank_newLine depth) (chars_escape f.1.toList)
      isBlank_nil isBlank_space hf isBlank_nil (ih hfs)

theorem Faithful.record {fs : List (String × Document)} (h : ∀ f ∈ fs, Faithful f.2) : Faithful (.record fs) := by
  cases fs with
  | nil => exact ⟨.emptyTable isBlank_nil, fun _ => .emptyTable isBlank_nil⟩
  | cons f fs =>
    refine ⟨?_, fun depth => ?_⟩
    · have htable := Text.table (fields_compactFields fun x hx => (h x hx).1)
      rw [table_spelled] at htable
      simpa [Document.record, compactChars] using htable
    · have htable := Text.table (fields_prettyFields (depth + 1) (isBlank_newLine depth) fun x hx =>
        (h x hx).2 (depth + 1))
      rw [table_spelled] at htable
      simpa [Document.record, prettyChars] using htable

theorem Faithful.writes_compact {d : Document} (h : Faithful d) : Writes (compact d) d :=
  ⟨[], compactChars d, [], isBlank_nil, h.1, isBlank_nil, by rw [List.nil_append, List.append_nil, compact]⟩

theorem Faithful.writes_pretty {d : Document} (h : Faithful d) : Writes (pretty d) d :=
  ⟨[], prettyChars 0 d, [], isBlank_nil, h.2 0, isBlank_nil, by rw [List.nil_append, List.append_nil, pretty]⟩

end ServiceContainer.Json
