import ServiceContainer.Document
import ServiceContainer.Registration

/-!
# Reports

The table of the services that were registered.

## Main definitions

* `ReportEntry`, `Report` — the table
* `Report.ofRegistrations` — the table of registrations
* `Report.document` — the table as a document
-/

namespace ServiceContainer

/-- A service in the table. -/
structure ReportEntry where
  key : String
  implementation : String
  lifetime : Lifetime
  construction : String
  disposable : Bool
  origin : Origin
  ambiguous : Bool
  deriving DecidableEq, Repr

/-- The table of services under the name of their module. -/
structure Report where
  moduleName : String
  services : List ReportEntry
  deriving DecidableEq, Repr

/-- The entry of a registration. -/
def ReportEntry.ofRegistration (r : Registration) : ReportEntry where
  key := r.key.display
  implementation := r.implementation.display
  lifetime := r.lifetime
  construction := r.construction.text
  disposable := r.disposable
  origin := r.origin
  ambiguous := r.ambiguous

/-- The table of registrations. -/
def Report.ofRegistrations (moduleName : String) (rs : List Registration) : Report :=
  ⟨moduleName, rs.map ReportEntry.ofRegistration⟩

/-- An origin as a document. -/
def Origin.document : Origin → Document
  | .own => .record [("kind", .text "own")]
  | .base name => .record [("kind", .text "base"), ("from", .text name)]
  | .contract name => .record [("kind", .text "contract"), ("from", .text name)]

/-- An entry as a document. -/
def ReportEntry.document (e : ReportEntry) : Document := .record
  [("service_key", .text e.key), ("implementation", .text e.implementation),
   ("lifetime", .text e.lifetime.name), ("construction", .text e.construction),
   ("disposable", .boolean e.disposable), ("marker_origin", e.origin.document),
   ("ambiguous", .boolean e.ambiguous)]

/-- The table as a document. -/
def Report.document (r : Report) : Document := .record
  [("namespace", .text r.moduleName), ("services", .list (r.services.map ReportEntry.document))]

end ServiceContainer
