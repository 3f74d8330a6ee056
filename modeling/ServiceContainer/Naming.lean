import ServiceContainer.Text.SnakeCase
import ServiceContainer.TypeExpr

/-!
# Names of members

The members that a provider has for a service are named after its key: the simple name of the key in snake case, and
the names of its type arguments after double underscores.

## Main definitions

* `serviceIdentifier` — the identifier of a key
* `cellName`, `accessorName` — the names of members
* `identifier` — a name checked to be an identifier
-/

namespace ServiceContainer

open Text

/-- What stands between the name of a key and the names of its arguments. -/
def argumentSeparator : String := "__"

/-- The name of an argument of a key: its simple name in snake case, or the letters of its text. -/
def argumentName (argument : TypeExpr) : String :=
  match argument.simpleName? with
  | some name => snakeCase name
  | none => String.ofList (lowerText (argument.display.toList.filter isWordChar))

/-- The identifier of a key, unless the key has no name. -/
def serviceIdentifier (key : TypeExpr) : Except GenerationError String :=
  match key.simpleName? with
  | some name =>
    .ok (String.join (snakeCase name :: key.typeArguments.flatMap fun a => [argumentSeparator, argumentName a]))
  | none => .error (.invalidKey key.display "无法确定服务键的名称")

/-- The name of the cell that keeps the instance of a service. -/
def cellName (identifier : String) : String := identifier ++ "_instance"

/-- The name of the function that delivers a service. -/
def accessorName (identifier : String) : String := "resolve_" ++ identifier

/-- The identifier that a text is, or the error that it is none. -/
def identifier (text : String) : Except GenerationError String :=
  match Syntax.readIdent? text with
  | some name => .ok name
  | none => .error (.badIdentifier text)

end ServiceContainer
