import ServiceContainer.Number.Binary64

/-!
# Documents

The values that data formats are about. A document may break off in the middle: what was read before stays, so that a
reader that goes through it from front to back meets the first problem first, be it a value that does not fit or the
place where the text stops following its format.

## Main definitions

* `Document` — the values
* `Document.hasDistinctNames` — no table has two fields of one name
-/

namespace ServiceContainer

/-- A value of a data format. -/
inductive Document where
  | null
  | boolean (value : Bool)
  | integer (value : Int)
  | decimal (value : Number.Binary64)
  /-- A number that is too large or a text with half a character, which only a value that nobody reads may be. -/
  | excess
  | text (value : String)
  /-- A date or a time, as written. -/
  | moment (text : String)
  /-- A list; it is not `whole` when the text breaks off after these items. -/
  | array (items : List Document) (whole : Bool)
  /-- Fields in the order of the text; they are not `whole` when the text breaks off after these. -/
  | table (fields : List (String × Document)) (whole : Bool)
  /-- A table with half a character in a name that stands after these fields, which only a value that nobody reads may
  be. -/
  | garbled (fields : List (String × Document))
  /-- The text breaks off before there is a value. -/
  | broken
  deriving Repr

instance : Inhabited Document := ⟨.null⟩

namespace Document

/-- A list. -/
def list (items : List Document) : Document := .array items true

/-- A table. -/
def record (fields : List (String × Document)) : Document := .table fields true

/-- A text or nothing. -/
def optional : Option String → Document
  | some value => .text value
  | none => .null

mutual

/-- No name stands for two fields of a table. -/
def hasDistinctNames : Document → Bool
  | .array items _ => allDistinct items
  | .table fields _ | .garbled fields => fieldsDistinct fields
  | _ => true

/-- No name stands for two fields of a table in any of the items. -/
def allDistinct : List Document → Bool
  | [] => true
  | d :: rest => d.hasDistinctNames && allDistinct rest

/-- The names differ, and in the values as well. -/
def fieldsDistinct : List (String × Document) → Bool
  | [] => true
  | (name, d) :: rest => !rest.any (·.1 == name) && d.hasDistinctNames && fieldsDistinct rest

end

end Document

end ServiceContainer
