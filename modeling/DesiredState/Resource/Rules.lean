import DesiredState.Doc.Layout
import DesiredState.Resource.DeletionPolicy
import DesiredState.Resource.TagPlan

/-!
# The rules of a kind

Kinds of resources differ in what can be desired, what a host reports, and how the one is brought
to the other. All of it is in one record of functions; everything else is written once for all
kinds.

Contents:

* `Violation`, `Check`: why a resource is refused.
* `Hosted`: a resource as its host reports it.
* `Rules`: what distinguishes a kind.
-/

namespace DesiredState

/-- A field that is refused, and why. -/
structure Violation where
  field : String
  detail : String
  deriving DecidableEq

abbrev Check := Except Violation Unit

namespace Check

def refuse (field detail : String) : Check := .error ⟨field, detail⟩

def refuseIf (bad : Bool) (field detail : String) : Check :=
  if bad then refuse field detail else .ok ()

def needed (field value : String) : Check :=
  refuseIf (Text.isBlankText value) field (field ++ " is required")

def within (field : String) (least most value : UInt32) : Check :=
  refuseIf (value < least || most < value) field
    (field ++ " must be between " ++ toString least.toNat ++ " and " ++ toString most.toNat
      ++ ", got " ++ toString value.toNat)

/-- A number, if there is one, must lie between two others. -/
def withinIfSet (field : String) (least most : UInt32) : Option UInt32 → Check
  | some value => within field least most value
  | none => .ok ()

end Check

/-- A resource as its host reports it. -/
structure Hosted (Attributes : Type) where
  identifier : String
  name : String
  tags : Tags
  attributes : Attributes
  deriving DecidableEq

/-- What distinguishes a kind of resources. `D` is what can be desired besides the name, `A` what a
host reports besides identifier, name and tags, `O` what of it is copied to a resource, and `C` one
change of a hosted resource. -/
structure Rules (D A O C : Type) where
  /-- The name of the kind. -/
  label : String
  /-- How identifiers of this kind begin. -/
  idStem : String
  defaultPolicy : DeletionPolicy := .delete
  allowedPolicies : List DeletionPolicy := [.delete, .retain, .orphan]
  tagStrategy : TagStrategy := .additive
  /-- The field that holds the name. -/
  nameField : String := "name"
  desiredLayout : Layout D D
  observedLayout : Layout O O
  hostedLayout : Layout (Hosted A) (Hosted A)
  normalizeName : String → String
  /-- Fills in what was left open. -/
  fill : D → D
  validate : String → D → Check
  /-- What of a hosted resource with this identifier is copied. -/
  observe : String → A → O
  /-- What stands for a resource that is not hosted. -/
  unobserved : O
  /-- One change for each attribute that differs from what is desired. -/
  diff : D → A → List C
  /-- Changes made right after creation. -/
  postCreate : D → List C := fun _ => []
  /-- A failure of this change does not fail the sync. -/
  isBestEffort : C → Bool := fun _ => false
  /-- The attributes of a resource created at this time with this identifier and name. -/
  materialize : Instant → String → String → D → A
  apply : C → A → A
  /-- The attributes after stopping, for kinds that can be stopped. -/
  stop : A → Option A := fun _ => none
  /-- A resource that was created or not can be used. -/
  isReady : Bool → D → O → Bool
  isQuiesced : O → Bool := fun _ => false
  /-- A change for readers. -/
  changeText : C → String

end DesiredState
