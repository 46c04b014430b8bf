import DesiredState.Fleet.Run
import DesiredState.Manifest.Basic
import DesiredState.Record.State

/-!
# Runs on the recorded state

A run begins with what earlier runs recorded: the manifest takes over the identifiers, and the
provider hosts what it hosted then. It ends by recording what has become of all that.

Contents:

* `Manifest.syncOn`, `Manifest.deleteOn`: the run of a manifest on a recorded state.
* `RecordedState.ended`: the state after a run.
* `ReportEntry.isReleased`: a deletion after which nothing of the resource is left to record.
* `RecordedState.sync`, `RecordedState.delete`: the report of a run and the state after it.
-/

namespace DesiredState

/-! ## Runs -/

/-- The run that brings the resources of a manifest to their desired states. -/
def Manifest.syncOn (m : Manifest) (s : RecordedState) (now : Instant) (serial : Numbering)
    (token : Token) (continueOnError : Bool) : RunResult :=
  syncAll ⟨m.snapshotStem, continueOnError⟩ now (m.adopt s.resources).resources
    ⟨.ofSnapshot serial s.provider, token⟩

/-- The run that deletes the resources of a manifest. -/
def Manifest.deleteOn (m : Manifest) (s : RecordedState) (now : Instant) (serial : Numbering)
    (token : Token) (continueOnError : Bool) : RunResult :=
  deleteAll ⟨m.snapshotStem, continueOnError⟩ now (m.adopt s.resources).resources
    ⟨.ofSnapshot serial s.provider, token⟩

/-- The state after a run: what is hosted then, and one more run in the history. -/
def RecordedState.ended (s : RecordedState) (now : Instant) (operation : RunOperation)
    (result : RunResult) : RecordedState :=
  { s with provider := result.world.provider.snapshot }.addHistory now
    (.ofRun now operation result.report.labels result.report.firstError?)

/-! ## Syncing -/

/-- Brings the resources of a manifest to their desired states, and records those that exist. A run
that was interrupted is recorded as far as it came. -/
def RecordedState.sync (s : RecordedState) (now : Instant) (serial : Numbering) (token : Token)
    (continueOnError : Bool) (m : Manifest) : Report × RecordedState :=
  let result := m.syncOn s now serial token continueOnError
  let existing := result.resources.filter fun r => !r.identifier.isEmpty
  (result.report, (s.record now existing).ended now .sync result)

/-! ## Deleting -/

/-- Nothing is left to record: the resource is gone, or it is no longer looked after. What is
retained or stopped stays recorded, so that a later run finds it. -/
def ReportEntry.isReleased (e : ReportEntry) : Bool :=
  match e.deleteAction with
  | some .delete => true
  | some (.snapshotThenDelete _) => true
  | some (.skip .orphaned) => true
  | some (.skip .neverCreated) => true
  | _ => false

/-- Forgets a resource that a deletion released. -/
def RecordedState.release (now : Instant) (s : RecordedState) (e : ReportEntry) : RecordedState :=
  if e.isReleased then (s.forget now e.kind e.name).2 else s

/-- Deletes the resources of a manifest, and forgets those that are released. -/
def RecordedState.delete (s : RecordedState) (now : Instant) (serial : Numbering) (token : Token)
    (continueOnError : Bool) (m : Manifest) : Report × RecordedState :=
  let result := m.deleteOn s now serial token continueOnError
  let kept := result.report.entries.foldl (RecordedState.release now) s
  (result.report, kept.ended now .delete result)

end DesiredState
