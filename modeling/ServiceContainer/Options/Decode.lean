import ServiceContainer.Document.Decode
import ServiceContainer.Options

/-!
# Options as documents

## Main definitions

* `Options.shape`, `Options.decode` — options from a document
* `Options.entries`, `Options.document` — options as a document
-/

namespace ServiceContainer.Options

open Document (decodeText decodeBoolean decodeOptional decodeList)

/-- The fields of options, none of which must be given; others are passed over. `exact` refuses a list that is too
long. -/
def shape (exact : Bool) : RecordShape Options where
  fields :=
    [⟨"namespace", false, fun d o => do return { o with moduleName := ← decodeText d }⟩,
     ⟨"provider_name", false, fun d o => do return { o with rootName := ← decodeText d }⟩,
     ⟨"scoped_provider_name", false, fun d o => do return { o with scopedName := ← decodeText d }⟩,
     ⟨"runtime_path", false, fun d o => do return { o with runtimePath := ← decodeText d }⟩,
     ⟨"strict_markers", false, fun d o => do return { o with strictMarkers := ← decodeBoolean d }⟩]
  closed := false
  exact := exact
  start := {}

/-- The options that a document gives; those that it does not give have their defaults. -/
def decode (d : Document) : Decoded Options := (shape true).decode d

/-- The options by the names of their fields. -/
def entries (o : Options) : List (String × Document) :=
  [("namespace", .text o.moduleName), ("provider_name", .text o.rootName),
   ("scoped_provider_name", .text o.scopedName), ("runtime_path", .text o.runtimePath),
   ("strict_markers", .boolean o.strictMarkers)]

/-- The options as a document. -/
def document (o : Options) : Document := .record o.entries

end ServiceContainer.Options
