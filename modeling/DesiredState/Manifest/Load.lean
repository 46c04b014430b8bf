import DesiredState.EnvFile.Load
import DesiredState.Manifest.Text

/-!
# Manifests in files

Contents:

* `Manifest.candidates`: where a manifest may be found, the nearest place first.
* `Manifest.find`: the nearest manifest.
* `Manifest.read`: the manifest in a file.
* `Manifest.load`: the same with what the environment changes and with common tags.
-/

namespace DesiredState.Manifest

variable {m : Type → Type} [Monad m]

/-! ## Finding -/

/-- The names that manifests have, the preferred one first. -/
def fileNames : List String := ["infra.yaml", "infra.yml", "manifest.yaml"]

/-- The files that may be the manifest of a folder: in it, or else in the folders above. -/
def candidates (start : Path) : List Path :=
  start.ancestors.flatMap fun folder => fileNames.map folder.child

/-- The manifest of a folder or of the nearest folder above it. -/
def find (platform : Platform m) (start : Path) : Attempt m Path := do
  match ← ((candidates start).findM? platform.isPresent : m (Option Path)) with
  | some path => return path
  | none => throw (.manifest (.fileNotFound (start.child "infra.yaml").text))

/-! ## Reading -/

def read (platform : Platform m) (path : Path) : Attempt m Manifest := do
  if !(← platform.isPresent path) then throw (.manifest (.fileNotFound path.text))
  match ← platform.readText path with
  | .error cause =>
    throw (.manifest (.parse ("Failed to read file: " ++ cause) (some path.text)))
  | .ok text =>
    match parse text (some path.text) with
    | .ok manifest => return manifest
    | .error e => throw (.manifest e)

/-- The variable that sets how names of final snapshots begin. -/
def stemVariable : String := "INFRA_RECONCILE_SNAPSHOT_PREFIX"

/-- The manifest with what the environment sets; a blank value sets nothing. -/
def override (stem? : Option String) (manifest : Manifest) : Manifest :=
  match stem? with
  | some stem =>
    if Text.isBlankText stem then manifest else { manifest with snapshotStem := stem }
  | none => manifest

/-- The manifest in a file as it counts where these variables are defined. -/
def load (platform : Platform m) (defined : Dict String) (path : Path) : Attempt m Manifest := do
  let manifest ← read platform path
  let stem? ← (platform.lookUp defined stemVariable : m (Option String))
  return (manifest.override stem?).applyDefaults

end DesiredState.Manifest
