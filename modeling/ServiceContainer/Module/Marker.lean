import ServiceContainer.Declaration
import ServiceContainer.Module.Error

/-!
# Marker attributes

A marker is written `#[service(singleton, key = dyn Greeter)]`: a lifetime and a key in either order, of which each
may be absent.

## Main definitions

* `markerArguments` — what stands between the parentheses
* `Marker.ofAttribute` — the marker that an attribute is
-/

namespace ServiceContainer

open Syntax

/-- Reads the arguments of a marker that follow those of `marker`; `fuel` bounds their number. -/
def markerArgumentsUpTo (g : Grammar) (marker : Marker) : Nat → List Tree → Except ModuleError Marker
  | 0, _ => .error .malformed
  | fuel + 1, trees =>
    if trees.isEmpty then .ok marker
    else
      match Parser.name trees with
      | none => .error .malformed
      | some (word, rest) => do
        let (marker, rest) ← argument word rest
        if rest.isEmpty then .ok marker
        else
          match afterMarks [','] rest with
          | some rest => markerArgumentsUpTo g marker fuel rest
          | none => .error .malformed
where
  /-- The marker with the argument that begins with a word, and the trees after the argument. -/
  argument (word : String) (rest : List Tree) : Except ModuleError (Marker × List Tree) :=
    match afterMarks ['='] rest with
    | some rest =>
      if word != "key" then .error (.unknownMarkerArgument word)
      else if marker.key.isSome then .error .repeatedKey
      else
        match g.type true rest with
        | some (type, rest) => .ok ({ marker with key := some ⟨type⟩ }, rest)
        | none => .error .malformed
    | none =>
      if marker.lifetime.isSome then .error .repeatedLifetime
      else .ok ({ marker with lifetime := some word }, rest)

/-- The marker whose arguments the trees are. -/
def markerArguments (trees : List Tree) : Except ModuleError Marker :=
  markerArgumentsUpTo (.forTrees trees) ⟨none, none⟩ (trees.length + 1) trees

/-- The marker that an attribute is. -/
def Marker.ofAttribute (body : AttributeBody) : Except ModuleError Marker :=
  match body.form with
  | .bare => .ok ⟨none, none⟩
  | .list _ arguments => markerArguments arguments
  | .value _ => .error .markerForm

end ServiceContainer
