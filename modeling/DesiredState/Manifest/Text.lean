import DesiredState.Failure
import DesiredState.Manifest.Basic
import DesiredState.Yaml.Value

/-!
# Manifests as texts

A manifest is written in YAML. Outside its resources every scalar is a text as it is spelled; within
a resource scalars have their meanings, but for its kind.

Contents:

* `Manifest.resourceDoc`, `Manifest.rootDoc`: the document of a YAML text.
* `Manifest.ofYaml`: the manifest of a text.
* `Manifest.parse`: the same, with the wording of what is wrong.
-/

namespace DesiredState.Manifest

open Yaml

/-- The levels of nesting that remain within a resource. -/
def resourceDepth : Nat := maxDepth - 2

/-- An entry of a resource: the kind is taken as it is spelled. -/
def resourceEntry (e : Node × Node) : Walk (Key × Doc) := do
  entryDoc (← nodeDoc (resourceDepth - 1) e.1) fun key =>
    if key = .name "kind" then verbatim e.2 else nodeDoc (resourceDepth - 1) e.2

/-- A resource; a tag that only its reader understands is refused. -/
def resourceDoc (n : Node) : Walk Doc := do
  match ← resolve n with
  | .scalar tag plain text =>
    pure (if isLocalTag tag then .fault .invalidType else scalarDoc tag plain text)
  | .list tag items =>
    if isLocalTag tag then pure (.fault .invalidType)
    else
      let kind ← (items.take 1).mapM verbatim
      let rest ← (items.drop 1).mapM (nodeDoc (resourceDepth - 1))
      pure (.list (kind ++ rest))
  | .record tag entries =>
    if isLocalTag tag then pure (.fault .invalidType)
    else pure (.record (← entries.mapM resourceEntry))
  | _ => pure cutDoc

def defaultsDoc : Node → Walk Doc :=
  recordOf fun name n =>
    if name = "tags" then recordOf (fun _ => verbatim) n else ignored n

def engineDoc : Node → Walk Doc :=
  recordOf fun name n => if name = "snapshot_prefix" then verbatim n else ignored n

def rootDoc : Node → Walk Doc :=
  recordOf fun name n =>
    if name = "defaults" then defaultsDoc n
    else if name = "engine" then engineDoc n
    else if name = "resources" then listOfNodes resourceDoc n
    else ignored n

/-- The document of a YAML text; an empty text is a manifest without entries. -/
def yamlDoc (d : Document) : Doc :=
  match d.root with
  | none => .record []
  | some n => d.walk (rootDoc n)

/-- The manifest of a YAML text, which must hold nothing else. -/
def ofYaml (text : String) : Except Fault Manifest := do
  let d := readDocument text
  let m ← form.read (yamlDoc d)
  if d.ends then .ok m else .error .malformed

/-- The manifest of a YAML text from some place. -/
def parse (text : String) (source : Option String) : Except ManifestError Manifest :=
  (ofYaml text).mapError fun f => .parse ("YAML parse error: " ++ f.message) source

end DesiredState.Manifest
