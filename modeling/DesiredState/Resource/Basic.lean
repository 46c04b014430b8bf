import DesiredState.Resource.Spec

/-!
# Resources

A resource is a specification of some kind.

Contents:

* `Resource`: the type.
* `Resource.prepare`, `Resource.addTags`, `Resource.adopt?`: a resource before it is used.
* `Resource.form`: a resource in documents.
-/

namespace DesiredState

/-- A specification of some kind. -/
structure Resource where
  kind : Kind
  spec : Spec kind
  deriving DecidableEq

namespace Resource

def name (r : Resource) : String := r.spec.name

def shared (r : Resource) : Meta := r.spec.shared

/-- The identifier; empty until the resource is created. -/
def identifier (r : Resource) : String := r.spec.identifier

def label (r : Resource) : String := r.kind.label ++ "/" ++ r.name

/-- The hosted resource can be used. -/
def isReady (r : Resource) : Bool := r.spec.isReady

def isNamed (kind : Kind) (name : String) (r : Resource) : Bool :=
  r.kind = kind && r.name = name

def sameAs (r other : Resource) : Bool := other.isNamed r.kind r.name

/-- Completes the specification and checks it; a refused one stays completed. -/
def prepare (r : Resource) : Resource × Except ValidationError Unit :=
  (⟨r.kind, r.spec.prepare.1⟩, r.spec.prepare.2)

/-- The resource with more tags; its own tags win. -/
def addTags (tags : Tags) (r : Resource) : Resource :=
  ⟨r.kind, { r.spec with shared := { r.shared with tags := tags.overwrite r.shared.tags } }⟩

/-- The resource with what a recorded one of its kind knows of the hosted resource. -/
def adopt? (r recorded : Resource) : Option Resource :=
  if h : recorded.kind = r.kind then
    some ⟨r.kind, { r.spec with
      shared := { r.shared with
        identifier := recorded.identifier
        lastSyncTime := recorded.shared.lastSyncTime }
      observed := h ▸ recorded.spec.observed }⟩
  else none

/-! ## Documents -/

def kindForm : Form Kind where
  write k := .text k.label
  read
    | .text s => Form.named Kind.label Kind.all s
    | .fault f => .error f
    | _ => .error .invalidType

/-- The kind of a record, unless an entry breaks off before. -/
def readKind (entries : List (Key × Doc)) : Ranked Kind :=
  let others := entries.zipIdx.filterMap fun (e, i) =>
    if e.1 = .name "kind" then none else e.2.firstFault.map fun f => (i, f)
  let kind := Layout.readColumn "kind" kindForm .refused ⟨entries, false⟩
  match others with
  | [] => kind
  | e :: _ => Ranked.both (.error e) kind

/-- A resource in documents: one record for its kind and its specification. -/
def form : Form Resource where
  write r := .object (("kind", kindForm.write r.kind) :: r.spec.fields)
  read
    | .record entries => do
      let kind ← (readKind entries).mapError Prod.snd
      let spec ← (Spec.form kind).read (.record (entries.filter fun e => e.1 ≠ .name "kind"))
      .ok ⟨kind, spec⟩
    | .list [] => .error (.missingField "kind")
    | .list (d :: rest) => do
      let _ ← kindForm.read d
      .error ((Doc.firstFaultOfItems rest).getD .invalidType)
    | .fault f => .error f
    | _ => .error .invalidType

end Resource

end DesiredState
