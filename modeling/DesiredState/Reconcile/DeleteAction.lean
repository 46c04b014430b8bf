import DesiredState.Digest.Sha256
import DesiredState.Resource.DeletionPolicy

/-!
# Deletion

What deleting a resource comes to, given its policy and its state, and the names of final snapshots.

Contents:

* `DeletionContext`: what is known of the resource.
* `SkipReason`, `DeleteAction`: the outcomes.
* `DeleteAction.resolve`: the outcome for a policy.
* `DeletionContext.snapshotId`: the name of a final snapshot that nobody named.
-/

namespace DesiredState

/-- What is known of a resource that is to be deleted. -/
structure DeletionContext where
  kind : String
  identifier : String
  naturalKey : String
  finalSnapshotId : Option String
  quiesced : Bool
  snapshotStem : String

/-- Why nothing is done. -/
inductive SkipReason
  | neverCreated
  | retained
  | orphaned
  | alreadyStopped
  deriving DecidableEq

def SkipReason.label : SkipReason → String
  | .neverCreated => "never_created"
  | .retained => "retained"
  | .orphaned => "orphaned"
  | .alreadyStopped => "already_stopped"

def SkipReason.text : SkipReason → String
  | .neverCreated => "never created"
  | .retained => "retained"
  | .orphaned => "orphaned"
  | .alreadyStopped => "already stopped"

/-- What deleting a resource comes to. -/
inductive DeleteAction
  | skip (reason : SkipReason)
  | delete
  | snapshotThenDelete (snapshotId : String)
  | stop
  deriving DecidableEq

/-! ## Names of final snapshots -/

/-- How names of final snapshots begin, unless chosen otherwise. -/
def defaultSnapshotStem : String := "final"

/-- A character that a snapshot name may hold besides hyphens. -/
def isNameChar (c : Char) : Bool := c.isAlphanum

/-- Letters and digits in lower case; what stands between them becomes one hyphen. -/
def hyphenate (afterHyphen : Bool) : List Char → List Char
  | [] => []
  | c :: rest =>
    if isNameChar c then c.toLower :: hyphenate false rest
    else if afterHyphen then hyphenate true rest
    else '-' :: hyphenate true rest

/-- A name that does not begin with a letter gets one. -/
def leadWithLetter : List Char → List Char
  | [] => ['s']
  | c :: rest => if c.isLower then c :: rest else 's' :: c :: rest

namespace DeletionContext

/-- The bytes that tie a snapshot to its resource: kind, a zero byte, identifier. -/
def snapshotBytes (c : DeletionContext) : List UInt8 :=
  Sha256.utf8 c.kind ++ 0 :: Sha256.utf8 c.identifier

/-- The first eight digits of the digest that ties a snapshot to its resource. -/
def snapshotDigest (c : DeletionContext) : List Char :=
  (Sha256.digestHex c.snapshotBytes).toList.take 8

/-- Name of the final snapshot when nobody named it; it depends on nothing but the context. -/
def snapshotId (c : DeletionContext) : String :=
  String.ofList (leadWithLetter (hyphenate false
    (c.snapshotStem.toList ++ '-' :: (c.naturalKey.toList ++ '-' :: c.snapshotDigest))))

/-- The final snapshot has a name that somebody chose. -/
def chosenSnapshotId? (c : DeletionContext) : Option String :=
  c.finalSnapshotId.filter fun id => !Text.isBlankText id

end DeletionContext

namespace DeleteAction

/-- What deleting a resource comes to under a policy. -/
def resolve (policy : DeletionPolicy) (c : DeletionContext) : DeleteAction :=
  if c.identifier.isEmpty then .skip .neverCreated
  else match policy with
    | .delete => .delete
    | .retain => .skip .retained
    | .orphan => .skip .orphaned
    | .snapshot => .snapshotThenDelete (c.chosenSnapshotId?.getD c.snapshotId)
    | .stop => if c.quiesced then .skip .alreadyStopped else .stop

/-- The host is not contacted. -/
def isNoop : DeleteAction → Bool
  | .skip _ => true
  | _ => false

def text : DeleteAction → String
  | .skip reason => "skip (" ++ reason.text ++ ")"
  | .delete => "delete"
  | .snapshotThenDelete id => "snapshot to " ++ id ++ ", then delete"
  | .stop => "stop"

def doc : DeleteAction → Doc
  | .skip reason => .object [("action", .text "skip"), ("reason", .text reason.label)]
  | .delete => .object [("action", .text "delete")]
  | .snapshotThenDelete id =>
    .object [("action", .text "snapshot_then_delete"), ("snapshot_id", .text id)]
  | .stop => .object [("action", .text "stop")]

end DeleteAction

end DesiredState
