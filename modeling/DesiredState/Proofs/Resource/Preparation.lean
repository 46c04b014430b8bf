import DesiredState.Proofs.Resource.Settled

/-!
# Preparing a specification

A specification is prepared whenever it is looked at: when the manifest is checked, and again before
each sync.  Preparing it once settles the matter: its name, its settings and the verdict stay what
they are, and nothing that is known of the hosted resource has a say in them.

Contents:

* `Preparation` — what preparing makes of a specification, and what is of no account for it.
* `prepare_settles` — every specification is prepared like that.
-/

namespace DesiredState

variable {k : Kind}

/-- What preparing a specification makes of it, and with which verdict. -/
structure Preparation (s s' : Spec k) (verdict : Except ValidationError Unit) : Prop where
  again : s'.prepare = (s', verdict)
  identifier : s'.shared.identifier = s.shared.identifier
  tags : s'.shared.tags = s.shared.tags
  finalSnapshotId : s'.shared.finalSnapshotId = s.shared.finalSnapshotId
  lastSyncTime : s'.shared.lastSyncTime = s.shared.lastSyncTime
  observed : s'.observed = s.observed
  policy : Rules.KeptIfSet s.shared.deletionPolicy s'.shared.deletionPolicy
  settings : k.Filled s.desired s'.desired
  /-- Identifier, tags, snapshot name, time and what was observed are carried along, whatever they
  are. -/
  carried : ∀ identifier tags finalSnapshotId lastSyncTime observed,
    Spec.prepare { s with
        shared := { s.shared with identifier, tags, finalSnapshotId, lastSyncTime }
        observed } =
      ({ s' with
        shared := { s'.shared with identifier, tags, finalSnapshotId, lastSyncTime }
        observed }, verdict)

/-- Preparing is idempotent, keeps what was declared, and looks at names, settings and policies
only. -/
theorem prepare_settles (s : Spec k) : Preparation s s.prepare.1 s.prepare.2 where
  again := by
    simp only [Spec.prepare, Spec.complete_complete]
  identifier := rfl
  tags := rfl
  finalSnapshotId := rfl
  lastSyncTime := rfl
  observed := rfl
  policy := .getD _ _
  settings := k.filled_fill s.desired
  carried identifier tags finalSnapshotId lastSyncTime observed := by
    -- Completion copies the five, and the verdict is on the three that they are not.
    apply Prod.ext
    · rfl
    · exact Spec.accept_congr rfl rfl rfl

end DesiredState
