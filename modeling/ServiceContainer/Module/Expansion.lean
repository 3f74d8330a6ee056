import ServiceContainer.Generation
import ServiceContainer.Module.Declare
import ServiceContainer.Module.Strip
import ServiceContainer.Syntax.Literal.Value

/-!
# Expansion of a module

A module is expanded with settings: its items are read as declarations, the container that is generated from them
becomes its last item, and the attributes that only the generation reads disappear.

## Main definitions

* `settings` — options from the text of settings
* `ModuleItem.expand` — an expanded module
* `expand` — the expansion of texts
-/

namespace ServiceContainer

open Syntax

/-! ### Settings -/

/-- The string that the value of a setting is. -/
def settingString (value : List Tree) : Except ModuleError String :=
  match value with
  | [.token (.literal text)] =>
    match stringValue? text with
    | some s => .ok s
    | none => .error .settingValue
  | _ => .error .settingValue

/-- The options with one setting. -/
def Options.set (o : Options) (setting : AttributeBody) : Except ModuleError Options :=
  match setting.form with
  | .bare => if setting.name? == some "strict" then .ok { o with strictMarkers := true } else .error .unknownSetting
  | .value value => do
    let value ← settingString value
    match setting.name? with
    | some "namespace" => .ok { o with moduleName := value }
    | some "provider" => .ok { o with rootName := value }
    | some "scoped_provider" => .ok { o with scopedName := value }
    | some "runtime" => .ok { o with runtimePath := value }
    | _ => .error .unknownSetting
  | .list _ _ => .error .unknownSetting

/-- The options of settings with commas between them. -/
def settings (trees : List Tree) : Except ModuleError Options :=
  match readTrees? (fun g => Parser.commaList g.attributeBody) trees with
  | some entries => entries.foldlM (fun o entry => o.set entry.1) {}
  | none => .error .malformed

/-! ### The module -/

mutual

/-- The trees that a tree consists of, without phrases. -/
def Syntax.Tree.plain : Tree → List Tree
  | .token t => [.token t]
  | .group d inner => [.group d (plainTrees inner)]
  | .phrase _ parts => plainTrees parts

/-- The trees without phrases. -/
def Syntax.plainTrees : List Tree → List Tree
  | [] => []
  | t :: ts => t.plain ++ plainTrees ts

end

/-- The item that a generated module is. A runtime path that no expression can begin with makes it none. -/
def generatedItem (g : Generated) : Except ModuleError Item :=
  match readTrees? (·.item) (plainTrees g.module) with
  | some item => .ok item
  | none => .error .malformed

/-- The module with a container of its declarations. -/
def Syntax.ModuleItem.expand (m : ModuleItem) (o : Options) : Except ModuleError ModuleItem := do
  match m.items with
  | none => throw .noBody
  | some items =>
    let ds ← declarationsOf items
    let g ← (generate o ds).mapError .generation
    let item ← generatedItem g
    return { m with items := some (items.map Item.stripped ++ [item]) }

/-- The expansion of a module under settings, both as texts. -/
def expand (settingsText moduleText : String) : Except ModuleError ModuleItem := do
  let some settingTrees := trees? settingsText | throw .malformed
  let some moduleTrees := trees? moduleText | throw .malformed
  let o ← settings settingTrees
  match readModule? moduleTrees with
  | some m => m.expand o
  | none => throw .malformed

end ServiceContainer
