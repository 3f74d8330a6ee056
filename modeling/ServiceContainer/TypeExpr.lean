import ServiceContainer.Error
import ServiceContainer.Syntax.Reader
import ServiceContainer.Text.Compact

/-!
# Type expressions

The types that keys, implementations and parameters are written with. A type expression is its syntax tree; two are
the same when their displayed texts are.

## Main definitions

* `TypeExpr`, `TypeExpr.ofText` — a type and how it is read
* `TypeExpr.text`, `TypeExpr.display` — its token text and the compact text that identifies it
* `TypeExpr.simpleName?`, `TypeExpr.typeArguments` — the name and the type arguments of its last segment
* `TypeExpr.replaceSelf` — the type with `Self` replaced
* `TypeExpr.expressionPath?` — the type as a path in an expression
-/

namespace ServiceContainer

open Syntax

/-- A type of the target language. -/
structure TypeExpr where
  tree : Tree
  deriving Repr

namespace TypeExpr

/-- The type that a text is. -/
def ofText? (text : String) : Option TypeExpr := (readType? text).map TypeExpr.mk

/-- The type that a text is, or the error that it is none. -/
def ofText (text : String) : Except GenerationError TypeExpr :=
  match ofText? text with
  | some t => .ok t
  | none => .error (.badType text)

/-- The type that is a name. -/
def ofName (name : String) : TypeExpr := ⟨.phrase .typePath [.phrase .segment [.ident name]]⟩

/-- The token text of a type. -/
def text (t : TypeExpr) : String := spacedText [t.tree]

/-- The compact text of a type. -/
def display (t : TypeExpr) : String := Text.compact t.text

instance : BEq TypeExpr := ⟨fun s t => s.display == t.display⟩

theorem beq_iff {s t : TypeExpr} : (s == t) = true ↔ s.display = t.display :=
  show (s.display == t.display) = true ↔ _ from beq_iff_eq

end TypeExpr

/-! ### The last segment -/

namespace Syntax

/-- The parts of the last segment of a path. -/
def lastSegment? (path : List Tree) : Option (List Tree) :=
  match path.getLast? with
  | some (.phrase .segment parts) => some parts
  | _ => none

/-- The path of a bound that is a trait, which may stand in parentheses. -/
def boundPath? : Tree → Option (List Tree)
  | .phrase .traitBound [.group .paren parts] => some parts
  | .phrase .traitBound parts => some parts
  | _ => none

/-- The type without parentheses around it. -/
def Tree.stripParens : Tree → Tree
  | .phrase .parens [.group .paren [t]] => t.stripParens
  | t => t

end Syntax

namespace TypeExpr

/-- The category of the type itself. -/
def category? (t : TypeExpr) : Option Category :=
  match t.tree with
  | .phrase c _ => some c
  | _ => none

/-- The parts of the last segment of a path, or of the first trait of an object type, in any parentheses. -/
def lastSegment? (t : TypeExpr) : Option (List Tree) :=
  match t.tree.stripParens with
  | .phrase .typePath parts => Syntax.lastSegment? parts
  | .phrase .object parts => (parts.findSome? boundPath?).bind Syntax.lastSegment?
  | _ => none

/-- The name of the last segment. -/
def simpleName? (t : TypeExpr) : Option String := t.lastSegment?.bind word?

/-- The trees that are types. -/
def typesAmong (parts : List Tree) : List TypeExpr :=
  parts.filterMap fun part => match part with
    | .phrase c inner => if c.isType then some ⟨.phrase c inner⟩ else none
    | _ => none

/-- The arguments of the last segment that are types. -/
def typeArguments (t : TypeExpr) : List TypeExpr :=
  match t.lastSegment? with
  | some [_, .phrase .angle parts] => typesAmong parts
  | _ => []

/-- The type is `Self`. -/
def isSelf (t : TypeExpr) : Bool := t.display == "Self"

end TypeExpr

/-! ### Replacing `Self` -/

namespace Syntax

/-- The tree is the type `Self`. -/
def Tree.isBareSelf : Tree → Bool
  | .phrase .typePath [.phrase .segment [.token (.ident name)]] => name == "Self"
  | _ => false

mutual

/-- The tree with another in place of each type `Self`. -/
def Tree.replaceSelf (target : Tree) : Tree → Tree
  | .token t => .token t
  | .group d inner => .group d (replaceSelfIn target inner)
  | .phrase c parts =>
    if (Tree.phrase c parts).isBareSelf then target else .phrase c (replaceSelfIn target parts)

/-- The trees with another in place of each type `Self`. -/
def replaceSelfIn (target : Tree) : List Tree → List Tree
  | [] => []
  | t :: ts => Tree.replaceSelf target t :: replaceSelfIn target ts

end

end Syntax

namespace TypeExpr

/-- The type with `target` in place of each `Self`. -/
def replaceSelf (t target : TypeExpr) : TypeExpr := ⟨Tree.replaceSelf target.tree t.tree⟩

/-- A segment whose arguments in angle brackets follow `::`. -/
def turbofish : Tree → Tree
  | .phrase .segment [name, .phrase .angle parts] =>
    .phrase .segment [name, .phrase .angle (if atOperator "::" parts then parts else operator "::" ++ parts)]
  | t => t

/-- The type as a path in an expression. -/
def expressionPath? (t : TypeExpr) : Option (List Tree) :=
  match t.tree.stripParens with
  | .phrase .typePath parts | .phrase .qualified parts => some (parts.map turbofish)
  | _ => none

end TypeExpr

end ServiceContainer
