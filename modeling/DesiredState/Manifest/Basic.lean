import DesiredState.Reconcile.DeleteAction
import DesiredState.Resource.Basic

/-!
# Manifests

A manifest lists the resources that should exist, in the order in which they are brought about, and
what holds for all of them.

Contents:

* `Manifest`: the type.
* `Manifest.applyDefaults`: common tags.
* `Manifest.adopt`, `Manifest.adopted`: what earlier runs recorded.
* `Manifest.form`: a manifest in documents.
-/

namespace DesiredState

/-- Resources in order, the tags that all of them get, and how names of final snapshots begin. -/
structure Manifest where
  defaultTags : Tags
  snapshotStem : String
  resources : List Resource
  deriving DecidableEq

namespace Manifest

def empty : Manifest := ⟨.empty, defaultSnapshotStem, []⟩

instance : Inhabited Manifest := ⟨empty⟩

/-- Every resource gets the common tags that it does not set itself. -/
def applyDefaults (m : Manifest) : Manifest :=
  { m with resources := m.resources.map (·.addTags m.defaultTags) }

def find? (m : Manifest) (kind : Kind) (name : String) : Option Resource :=
  m.resources.find? (·.isNamed kind name)

/-- A resource with what was recorded of it, if something was. -/
def adoptOne? (recorded : List Resource) (r : Resource) : Option Resource :=
  (recorded.find? r.sameAs).bind r.adopt?

/-- Every resource takes over what was recorded of it. -/
def adopt (m : Manifest) (recorded : List Resource) : Manifest :=
  { m with resources := m.resources.map fun r => (adoptOne? recorded r).getD r }

/-- The number of resources of which something was recorded. -/
def adopted (m : Manifest) (recorded : List Resource) : Nat :=
  m.resources.countP fun r => (adoptOne? recorded r).isSome

/-! ## Documents -/

/-- The part of a manifest that holds for all resources. -/
def defaultsForm : Form Tags :=
  Layout.record (.defaulted "tags" id Form.tags .empty)

def engineForm : Form String :=
  Layout.record (.defaulted "snapshot_prefix" id Form.text defaultSnapshotStem)

def layout : Layout Manifest Manifest :=
  Manifest.mk <$> .defaulted "defaults" Manifest.defaultTags defaultsForm .empty
    <*> .defaulted "engine" Manifest.snapshotStem engineForm defaultSnapshotStem
    <*> .defaulted "resources" Manifest.resources (Form.listOf Resource.form) []

def form : Form Manifest := layout.record

end Manifest

end DesiredState
