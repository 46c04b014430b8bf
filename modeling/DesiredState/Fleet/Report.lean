import DesiredState.Reconcile.DeleteAction
import DesiredState.Reconcile.Engine
import DesiredState.Resource.Basic

/-!
# Reports

What a run over many resources did, resource by resource.

Contents:

* `Status`: what became of a resource.
* `ReportEntry`: what is reported of a resource.
* `Report`: what is reported of a run.
* `Report.isSuccess`, `Report.count`, `Report.firstError?`: summaries.
* `Report.doc`: a report in documents.
-/

namespace DesiredState

/-! ## Status -/

/-- What became of a resource. -/
inductive Status
  | created
  | recreated
  | updated
  | unchanged
  | deleted
  | stopped
  | skipped
  | failed
  | notRun
  deriving DecidableEq

namespace Status

def all : List Status :=
  [.created, .recreated, .updated, .unchanged, .deleted, .stopped, .skipped, .failed, .notRun]

def text : Status → String
  | .created => "created"
  | .recreated => "recreated"
  | .updated => "updated"
  | .unchanged => "unchanged"
  | .deleted => "deleted"
  | .stopped => "stopped"
  | .skipped => "skipped"
  | .failed => "failed"
  | .notRun => "not run"

def label : Status → String
  | .notRun => "not_run"
  | s => s.text

def ofLabel? (name : String) : Option Status := all.find? fun s => s.label == name

def isSynced : Status → Bool
  | .created => true
  | .recreated => true
  | .updated => true
  | .unchanged => true
  | _ => false

def ofSync : SyncAction → Status
  | .created => .created
  | .recreated => .recreated
  | .updated => .updated
  | .unchanged => .unchanged

def ofDelete : DeleteAction → Status
  | .skip _ => .skipped
  | .delete => .deleted
  | .snapshotThenDelete _ => .deleted
  | .stop => .stopped

end Status

/-! ## Entries -/

/-- What is reported of a resource. -/
structure ReportEntry where
  kind : Kind
  name : String
  identifier : String
  status : Status
  ready : Bool
  changes : List String := []
  tagsUpserted : List String := []
  tagsRemoved : List String := []
  warnings : List Warning := []
  deleteAction : Option DeleteAction := none
  error : Option String := none
  deriving DecidableEq

namespace ReportEntry

def label (e : ReportEntry) : String := e.kind.label ++ "/" ++ e.name

/-- Nothing but a status is known of a resource. -/
def ofStatus (r : Resource) (status : Status) : ReportEntry where
  kind := r.kind
  name := r.name
  identifier := r.identifier
  status := status
  ready := r.isReady

def failed (r : Resource) (error : String) : ReportEntry :=
  { ofStatus r .failed with error := some error }

def synced {k : Kind} (s : Spec k) (o : SyncOutcome k) : ReportEntry where
  kind := k
  name := s.name
  identifier := s.identifier
  status := .ofSync o.action
  ready := s.isReady
  changes := o.applied.map k.rules.changeText
  tagsUpserted := o.tags.upsert.keys
  tagsRemoved := o.tags.remove
  warnings := o.warnings

/-- The resource was deleted in the way of its policy. -/
def deleted {k : Kind} (s : Spec k) (action : DeleteAction) : ReportEntry where
  kind := k
  name := s.name
  identifier := s.identifier
  status := .ofDelete action
  ready := false
  deleteAction := some action

end ReportEntry

/-! ## Reports -/

/-- What is reported of a run: its resources in the order of the run. -/
structure Report where
  entries : List ReportEntry
  cancelled : Bool
  deriving DecidableEq

namespace Report

def count (r : Report) (status : Status) : Nat :=
  r.entries.countP fun e => e.status = status

def failed (r : Report) : Nat := r.count .failed

def warnings (r : Report) : Nat := (r.entries.flatMap fun e => e.warnings).length

/-- No resource failed, and the run was not cancelled. -/
def isSuccess (r : Report) : Bool := !r.cancelled && r.failed == 0

def firstError? (r : Report) : Option String := r.entries.findSome? ReportEntry.error

def labels (r : Report) : List String := r.entries.map ReportEntry.label

end Report

/-! ## Documents -/

def Warning.doc (w : Warning) : Doc :=
  .object [("step", .text w.step), ("error", .text w.error)]

/-- A list of texts that is left out when it is empty. -/
def unlessEmptyTexts (name : String) (texts : List String) : List (String × Doc) :=
  if texts.isEmpty then [] else [(name, .texts texts)]

def ReportEntry.doc (e : ReportEntry) : Doc :=
  .object (
    [("kind", .text e.kind.label), ("name", .text e.name), ("identifier", .text e.identifier),
      ("status", .text e.status.label), ("ready", .bool e.ready)]
    ++ unlessEmptyTexts "changes" e.changes
    ++ unlessEmptyTexts "tags_upserted" e.tagsUpserted
    ++ unlessEmptyTexts "tags_removed" e.tagsRemoved
    ++ (if e.warnings.isEmpty then [] else [("warnings", .list (e.warnings.map Warning.doc))])
    ++ (e.deleteAction.map fun a => ("delete_action", a.doc)).toList
    ++ (e.error.map fun m => ("error", Doc.text m)).toList)

def Report.doc (r : Report) : Doc :=
  .object [("resources", .list (r.entries.map ReportEntry.doc)), ("cancelled", .bool r.cancelled)]

end DesiredState
