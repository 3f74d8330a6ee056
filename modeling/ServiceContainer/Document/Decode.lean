import ServiceContainer.Document
import ServiceContainer.Error

/-!
# Decoding documents

A document is decoded from front to back, and the first problem ends it. A record is decoded from a table, whose
fields may stand in any order, or from a list of the values of its fields in the order of their declaration.

## Main definitions

* `Field` — a field of a record
* `decodeText`, `decodeBoolean`, `decodeOptional`, `decodeList` — simple values
* `decodeRecord` — records
-/

namespace ServiceContainer

/-- The result of decoding. -/
abbrev Decoded (α : Type) := Except Defect α

namespace Document

/-- The problem with a value of the wrong kind. A list or a table is of the wrong kind at its first character. -/
def mismatch : Document → Defect
  | .broken | .excess => .malformed
  | _ => .shape

/-- Decodes a text. -/
def decodeText : Document → Decoded String
  | .text value => .ok value
  | d => .error d.mismatch

/-- Decodes a truth value. -/
def decodeBoolean : Document → Decoded Bool
  | .boolean value => .ok value
  | d => .error d.mismatch

/-- Decodes a value that may be absent. -/
def decodeOptional {α : Type} (decode : Document → Decoded α) : Document → Decoded (Option α)
  | .null => .ok none
  | d => (decode d).map some

/-- What decoded items are worth in a document that may break off after them. -/
def ifWhole {α : Type} (whole : Bool) (x : α) : Decoded α := if whole then .ok x else .error .malformed

/-- Decodes a list. -/
def decodeList {α : Type} (decode : Document → Decoded α) : Document → Decoded (List α)
  | .array items whole => do ifWhole whole (← items.mapM decode)
  | d => .error d.mismatch

/-- What happens to a value that nobody reads: it must be written to its end. -/
def skip : Document → Decoded Unit
  | .broken => .error .malformed
  | .array _ whole | .table _ whole => ifWhole whole ()
  | _ => .ok ()

end Document

/-- A field of a record: its name, whether it must be given, and how its value goes into the record. -/
structure Field (σ : Type) where
  name : String
  required : Bool
  put : Document → σ → Decoded σ

/-- How records of a type are decoded: their fields, whether others are refused, and whether a list may be longer
than the fields. -/
structure RecordShape (σ : Type) where
  fields : List (Field σ)
  closed : Bool
  exact : Bool
  start : σ

namespace RecordShape

variable {σ : Type} (shape : RecordShape σ)

/-- Decodes the fields of a table in their order; `seen` are the names of those before. -/
def decodeFields (seen : List String) (record : σ) :
    List (String × Document) → Decoded (List String × σ)
  | [] => .ok (seen, record)
  | (name, value) :: rest =>
    match shape.fields.find? (·.name == name) with
    | some field =>
      if seen.contains name then .error (.duplicateField name)
      else do decodeFields (name :: seen) (← field.put value record) rest
    | none =>
      if shape.closed then .error (.unknownField name)
      else do
        value.skip
        decodeFields seen record rest

/-- The first field that must be given and is not among the names. -/
def missing? (seen : List String) : Option String :=
  (shape.fields.find? fun field => field.required && !seen.contains field.name).map (·.name)

/-- Decodes the values of the fields in their order; the last ones may be absent. -/
def decodeItems (record : σ) (whole : Bool) : List (Field σ) → List Document → Decoded σ
  | [], [] => Document.ifWhole whole record
  | [], _ :: _ => if shape.exact then .error .malformed else .ok record
  | field :: fields, value :: values => do decodeItems (← field.put value record) whole fields values
  | field :: fields, [] =>
    if !whole then .error .malformed
    else if field.required then .error .shape
    else decodeItems record whole fields []

/-- The name under which a date stands where a record is expected. -/
def momentField : String := "$__toml_private_datetime"

/-- Decodes a record from a table or from a list. -/
def decode : Document → Decoded σ
  | .table fields whole => do
    let (seen, record) ← shape.decodeFields [] shape.start fields
    Document.ifWhole whole ()
    match shape.missing? seen with
    | some name => .error (.missingField name)
    | none => .ok record
  | .garbled fields => do
    let _ ← shape.decodeFields [] shape.start fields
    .error .malformed
  | .moment text => do
    let (seen, record) ← shape.decodeFields [] shape.start [(momentField, .text text)]
    match shape.missing? seen with
    | some name => .error (.missingField name)
    | none => .ok record
  | .array items whole => shape.decodeItems shape.start whole shape.fields items
  | d => .error d.mismatch

end RecordShape

end ServiceContainer
