import ServiceContainer.Syntax.Literal.Value
import ServiceContainer.Syntax.Parser

/-!
# Names of fields

A field has a name, or a number if it belongs to a tuple. A number may be written to any base and prints in decimal.
After a point, a literal with points in it such as `0.1` names one field after another.

## Main definitions

* `fieldNumber?`, `fieldNumbers?` — the fields that a literal names
* `Parser.fieldName` — the name or number of a field
-/

namespace ServiceContainer.Syntax

/-- The field of a tuple that a literal names: an integer of 32 bits without a suffix. -/
def fieldNumber? (text : String) : Option Tree :=
  (integerValue? text).bind fun n => if n < Nat.pow 2 32 then some (.literal (toString n)) else none

/-- The fields that the parts of a literal name, with the points between them. -/
def fieldNumbers? (parts : List String) : Option (List Tree) :=
  (parts.mapM fieldNumber?).map fun numbers => (numbers.map fun x => [x]).intersperse (operator ".") |>.flatten

namespace Parser

/-- The number of a field. -/
def fieldNumber : Parser (List Tree) := do
  match ← get with
  | .token (.literal text) :: rest =>
    let x ← liftM (fieldNumber? text)
    set rest
    return [x]
  | _ => failure

/-- The name or number of a field; the flag says whether it is a name. -/
def fieldName : Parser (Bool × List Tree) := do
  if atIdent (← get) then return (true, ← ident) else return (false, ← fieldNumber)

end Parser

end ServiceContainer.Syntax
