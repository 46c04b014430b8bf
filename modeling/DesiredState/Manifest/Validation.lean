import DesiredState.Failure
import DesiredState.Manifest.Basic

/-!
# Validation of manifests

Before anything is hosted every resource of a manifest is completed and checked, and no two of them
may have one kind and one name.

Contents:

* `Manifest.prepareAll`: all resources completed, and the refusals.
* `Manifest.repeated?`: the first resource whose kind and name stood before.
* `Manifest.warnings`: what is accepted but worth a remark.
* `Manifest.validate`: the verdict on a manifest.
-/

namespace DesiredState

/-- The number of resources of an accepted manifest, and the remarks on them. -/
structure ValidationReport where
  resources : Nat
  warnings : List String
  deriving DecidableEq

namespace Manifest

def prepareAll (m : Manifest) : Manifest :=
  { m with resources := m.resources.map fun r => r.prepare.1 }

def refusals (m : Manifest) : List ValidationError :=
  m.resources.filterMap fun r => match r.prepare.2 with
    | .ok _ => none
    | .error e => some e

/-- The first resource that has the kind and the name of one before it. -/
def repeatedAfter (seen : List Resource) : List Resource → Option Resource
  | [] => none
  | r :: rest => if seen.any r.sameAs then some r else repeatedAfter (r :: seen) rest

/-- The first resource whose kind and name stood before. -/
def repeated? (m : Manifest) : Option Resource := repeatedAfter [] m.resources

/-! ## Remarks -/

def mention (r : Resource) : String := r.kind.label ++ " '" ++ r.name ++ "'"

def untaggedWarning (r : Resource) : List String :=
  if r.shared.tags.isEmpty then [mention r ++ " has no tags"] else []

def policyWarning (r : Resource) : List String :=
  match r.shared.deletionPolicy.bind DeletionPolicy.parse? with
  | some .orphan => [mention r ++ " will be orphaned on delete"]
  | some .snapshot =>
    if r.shared.finalSnapshotId.isNone then
      [mention r ++ " will get a generated final snapshot name"]
    else []
  | _ => []

def warnings (allowUntagged : Bool) (m : Manifest) : List String :=
  m.resources.flatMap fun r =>
    (if allowUntagged then [] else untaggedWarning r) ++ policyWarning r

/-! ## The verdict -/

/-- The verdict on a manifest: a repeated name is reported before resources that are refused. -/
def verdict (allowUntagged : Bool) (m : Manifest) : Except ManifestError ValidationReport :=
  match m.prepareAll.repeated?, m.refusals with
  | some r, _ => .error (.duplicateName r.kind.label r.name)
  | none, first :: rest => .error (.invalid (rest.length + 1) first)
  | none, [] => .ok ⟨m.resources.length, m.prepareAll.warnings allowUntagged⟩

/-- Completes all resources of a manifest and checks them; they stay completed when refused. -/
def validate (allowUntagged : Bool) (m : Manifest) :
    Manifest × Except ManifestError ValidationReport :=
  (m.prepareAll, m.verdict allowUntagged)

end Manifest

end DesiredState
