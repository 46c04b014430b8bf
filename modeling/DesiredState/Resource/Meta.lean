import DesiredState.Doc.Layout
import DesiredState.Resource.DeletionPolicy

/-!
# Metadata of resources

What every resource has whatever its kind is.

Contents:

* `Meta`: identifier, tags, policy, name of the final snapshot, time of the last sync.
* `Meta.layout`: its fields in documents.
-/

namespace DesiredState

/-- What every resource has. The identifier is empty until the resource is created; the policy
stands as it was declared. -/
structure Meta where
  identifier : String
  tags : Tags
  deletionPolicy : Option String
  finalSnapshotId : Option String
  lastSyncTime : Option Instant
  deriving DecidableEq

namespace Meta

def ofTags (tags : Tags) : Meta := ⟨"", tags, none, none, none⟩

def empty : Meta := ofTags .empty

instance : Inhabited Meta := ⟨empty⟩

def isCreated (m : Meta) : Bool := !m.identifier.isEmpty

def layout : Layout Meta Meta :=
  Meta.mk <$> .unlessEmptyText "identifier" Meta.identifier
    <*> .defaulted "tags" Meta.tags Form.tags .empty
    <*> .optional "deletion_policy" Meta.deletionPolicy Form.text
    <*> .optional "final_snapshot_id" Meta.finalSnapshotId Form.text
    <*> .optional "last_sync_time" Meta.lastSyncTime Form.instant

end Meta

end DesiredState
