import DesiredState.Resource.Kind
import DesiredState.Resource.Meta

/-!
# Specifications

A specification says what a resource should be, and holds what is known of the hosted one. Before
it is used it is completed and checked.

Contents:

* `ValidationError`: why a specification is refused.
* `Spec`: the type.
* `Spec.complete`, `Spec.accept`, `Spec.prepare`: completion and checks.
* `Spec.effectivePolicy`: the policy that holds for a specification.
* `Spec.observe`, `Spec.diff`, `Spec.materialize`: specification and hosted resource.
-/

namespace DesiredState

/-- Why a specification is refused. -/
structure ValidationError where
  kind : String
  field : String
  detail : String
  deriving DecidableEq

def ValidationError.message (e : ValidationError) : String :=
  e.kind ++ "." ++ e.field ++ ": " ++ e.detail

/-- What a resource of a kind should be, and what is known of the hosted one. -/
structure Spec (k : Kind) where
  name : String
  desired : k.Desired
  shared : Meta
  observed : k.Observed
  deriving DecidableEq

abbrev HostedOf (k : Kind) := Hosted k.Attributes

namespace Spec

variable {k : Kind}

def ofDesired (k : Kind) (name : String) (desired : k.Desired) : Spec k :=
  ⟨name, desired, .empty, k.rules.unobserved⟩

/-- The identifier; empty until the resource is created. -/
def identifier (s : Spec k) : String := s.shared.identifier

def withIdentifier (s : Spec k) (identifier : String) : Spec k :=
  { s with shared := { s.shared with identifier := identifier } }

/-! ## Completion and checks -/

/-- A name in its usual form, and defaults for all that was left open. -/
def normalize (s : Spec k) : Spec k :=
  { s with
    name := k.rules.normalizeName s.name
    desired := k.rules.fill s.desired }

/-- The name of the default policy where none was declared. -/
def declarePolicy (s : Spec k) : Spec k :=
  { s with
    shared := { s.shared with
      deletionPolicy := some (s.shared.deletionPolicy.getD k.rules.defaultPolicy.label) } }

def complete (s : Spec k) : Spec k := s.normalize.declarePolicy

def refusal (k : Kind) (v : Violation) : ValidationError := ⟨k.label, v.field, v.detail⟩

/-- The policy that holds: the declared one if the kind allows it, else the kind's own. -/
def effectivePolicy (s : Spec k) : Except ValidationError DeletionPolicy :=
  match s.shared.deletionPolicy with
  | none => .ok k.rules.defaultPolicy
  | some declared =>
    match DeletionPolicy.parse? declared with
    | none => .error (refusal k ⟨"deletion_policy", DeletionPolicy.unknownText declared⟩)
    | some policy =>
      if policy ∈ k.rules.allowedPolicies then .ok policy
      else .error (refusal k ⟨"deletion_policy",
        "deletion policy " ++ policy.label ++ " is not supported for " ++ k.label⟩)

def validate (s : Spec k) : Except ValidationError Unit :=
  (k.rules.validate s.name s.desired).mapError (refusal k)

/-- Policy and fields obey the rules of the kind. -/
def accept (s : Spec k) : Except ValidationError Unit := do
  let _ ← s.effectivePolicy
  s.validate

/-- Completes a specification and checks it; a refused one stays completed. -/
def prepare (s : Spec k) : Spec k × Except ValidationError Unit :=
  (s.complete, s.complete.accept)

/-! ## Specification and hosted resource -/

/-- What is known of the hosted resource is copied. -/
def observe (s : Spec k) (h : HostedOf k) : Spec k :=
  { s with observed := k.rules.observe h.identifier h.attributes }

/-- What was known of the hosted resource is forgotten. -/
def clearObserved (s : Spec k) : Spec k :=
  { s with observed := k.rules.unobserved }

/-- One change for each attribute of the hosted resource that differs from what is desired. -/
def diff (s : Spec k) (h : HostedOf k) : List k.Change :=
  k.rules.diff s.desired h.attributes

def postCreate (s : Spec k) : List k.Change := k.rules.postCreate s.desired

/-- The resource that creation hosts under an identifier; it has no tags. -/
def materialize (s : Spec k) (now : Instant) (identifier : String) : HostedOf k where
  identifier := identifier
  name := s.name
  tags := .empty
  attributes := k.rules.materialize now identifier s.name s.desired

/-- The hosted resource can be used. -/
def isReady (s : Spec k) : Bool :=
  k.rules.isReady s.shared.isCreated s.desired s.observed

/-- The hosted resource is at rest. -/
def isQuiesced (s : Spec k) : Bool := k.rules.isQuiesced s.observed

/-- Deleting the resource removes what is hosted. -/
def isDeletable (s : Spec k) : Bool :=
  match s.effectivePolicy with
  | .ok .delete => true
  | .ok .snapshot => true
  | _ => false

end Spec

namespace Hosted

variable {k : Kind}

def apply (h : HostedOf k) (c : k.Change) : HostedOf k :=
  { h with attributes := k.rules.apply c h.attributes }

/-- The hosted resource after it was stopped, for kinds that can be stopped. -/
def stop (h : HostedOf k) : Option (HostedOf k) :=
  (k.rules.stop h.attributes).map fun a => { h with attributes := a }

end Hosted

/-! ## Documents -/

def Spec.ownLayout (k : Kind) : Layout (Spec k) (Meta → Spec k) :=
  (fun name desired observed shared => ⟨name, desired, shared, observed⟩)
    <$> .required k.rules.nameField Spec.name Form.text
    <*> k.rules.desiredLayout.within Spec.desired
    <*> .defaulted "observed" Spec.observed k.rules.observedLayout.record k.rules.unobserved

def Spec.fields {k : Kind} (s : Spec k) : List (String × Doc) :=
  (Spec.ownLayout k).write s ++ Meta.layout.write s.shared

/-- A specification in documents: one record for its own fields and its metadata. -/
def Spec.form (k : Kind) : Form (Spec k) where
  write s := .object s.fields
  read d := Layout.flattened (Spec.ownLayout k) Meta.layout d

def Hosted.form (k : Kind) : Form (HostedOf k) := k.rules.hostedLayout.record

end DesiredState
