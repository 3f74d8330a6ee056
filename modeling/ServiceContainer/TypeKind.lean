/-!
# Kinds of types

## Main definitions

* `TypeKind` — a struct, an enum or a trait
-/

namespace ServiceContainer

/-- The kind of a declared type. -/
inductive TypeKind where
  | struct | enum | trait
  deriving DecidableEq, Repr

end ServiceContainer
