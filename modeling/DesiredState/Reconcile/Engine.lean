import DesiredState.Failure
import DesiredState.Host.Gateway
import DesiredState.Reconcile.DeleteAction
import DesiredState.Reconcile.Token

/-!
# The engine

The engine brings one resource to its desired state, or deletes it. It makes one call after the
other and never repeats one; the first call that fails ends the run, best-effort changes apart.
What the calls before it learnt of the resource is kept, so that the next run can go on from there.

Contents:

* `Session`, `Run`: the state of a run, and its steps.
* `Engine.call`: one call under the token.
* `Engine.locate`, `Engine.create`, `Engine.converge`, `Engine.reconcileTags`: the parts of a sync.
* `Engine.sync`, `Engine.delete`: the two runs.
-/

namespace DesiredState

/-! ## Runs -/

/-- The state of a run: the specification as far as it is known, the host, the token. -/
structure Session (k : Kind) (σ : Type) where
  spec : Spec k
  world : σ
  token : Token

/-- A step of a run: it fails or answers, and leaves a state behind either way. -/
abbrev Run (k : Kind) (σ α : Type) := ExceptT Failure (StateM (Session k σ)) α

/-- How a sync came to the desired state. -/
inductive SyncAction
  | created
  | recreated
  | updated
  | unchanged
  deriving DecidableEq

def SyncAction.label : SyncAction → String
  | .created => "created"
  | .recreated => "recreated"
  | .updated => "updated"
  | .unchanged => "unchanged"

/-- A best-effort step that failed, and why. -/
structure Warning where
  step : String
  error : String
  deriving DecidableEq

/-- What a sync did. -/
structure SyncOutcome (k : Kind) where
  action : SyncAction
  applied : List k.Change
  tags : TagPlan
  warnings : List Warning

def SyncOutcome.isPartial {k : Kind} (o : SyncOutcome k) : Bool := !o.warnings.isEmpty

/-- Whether a resource was found. -/
inductive Presence (k : Kind)
  | found (current : HostedOf k)
  | missing (drifted : Bool)

/-- A gateway, and how names of final snapshots begin. -/
structure Engine (k : Kind) (σ : Type) where
  gateway : Gateway k σ
  snapshotStem : String

namespace Engine

variable {k : Kind} {σ α : Type}

/-! ## Steps -/

def spec : Run k σ (Spec k) := do
  let s ← get
  pure s.spec

def modifySpec (f : Spec k → Spec k) : Run k σ Unit :=
  modify fun s => { s with spec := f s.spec }

/-- The specification after a call whose answer is kept. -/
def kept (keep : α → Spec k → Spec k) (r : Except GatewayError α) (s : Spec k) : Spec k :=
  match r with
  | .ok a => keep a s
  | .error _ => s

/-- One call under the token. What `keep` makes of its answer stays in the specification even when
the run is cancelled before the answer returns. -/
def callKeeping (op : Operation) (request : Request σ α) (keep : α → Spec k → Spec k) :
    Run k σ α := ExceptT.mk fun s =>
  match s.token.next op with
  | (.refused, token) => (.error (.cancelled k.label op), { s with token := token })
  | (.lost, token) =>
    let (r, world) := request s.world
    (.error (.cancelled k.label op), ⟨kept keep r s.spec, world, token⟩)
  | (.returns, token) =>
    let (r, world) := request s.world
    (r.mapError (.provider k.label op), ⟨kept keep r s.spec, world, token⟩)

/-- One call under the token. -/
def call (op : Operation) (request : Request σ α) : Run k σ α :=
  callKeeping op request fun _ s => s

/-- Makes one change. A best-effort change that fails becomes a warning, a cancellation does not. -/
def applyOne (e : Engine k σ) (c : k.Change) : Run k σ (List k.Change × List Warning) := do
  let s ← spec
  tryCatch
    (do
      call .update (e.gateway.update s c)
      pure ([c], []))
    (fun f =>
      if k.rules.isBestEffort c && !f.isCancelled then
        pure ([], [⟨k.rules.changeText c, f.message⟩])
      else throw f)

/-- Makes changes in order; the answer holds those that were made and the warnings. -/
def applyAll (e : Engine k σ) : List k.Change → Run k σ (List k.Change × List Warning)
  | [] => pure ([], [])
  | c :: rest => do
    let (applied, warnings) ← e.applyOne c
    let (moreApplied, moreWarnings) ← e.applyAll rest
    pure (applied ++ moreApplied, warnings ++ moreWarnings)

/-! ## Parts of a sync -/

/-- Looks for the resource under its name; what is found lends its identifier. -/
def locateByName (e : Engine k σ) : Run k σ (Presence k) := do
  let name := (← spec).name
  if ← call .presence (e.gateway.presence name) then
    let current ← call .get (e.gateway.get name)
    modifySpec (·.withIdentifier current.identifier)
    pure (.found current)
  else pure (.missing false)

/-- Looks for the resource under its identifier. If it has vanished it is forgotten, and looked for
under its name: something else may have created it anew. -/
def locate (e : Engine k σ) : Run k σ (Presence k) := do
  let identifier := (← spec).identifier
  if identifier.isEmpty then e.locateByName
  else if ← call .presence (e.gateway.presence identifier) then
    let current ← call .get (e.gateway.get identifier)
    pure (.found current)
  else
    modifySpec fun s => (s.withIdentifier "").clearObserved
    match ← e.locateByName with
    | .missing _ => pure (.missing true)
    | p => pure p

/-- Creates the resource and makes the changes that follow creation. -/
def create (e : Engine k σ) : Run k σ (List k.Change × List Warning) := do
  let _ ← callKeeping .create (e.gateway.create (← spec)) fun created _ => created
  let s ← spec
  if s.identifier.isEmpty then
    throw (.provider k.label .create (.rejected "create returned no identifier"))
  else e.applyAll s.postCreate

/-- Copies what is known of the hosted resource and makes all changes that it needs. -/
def converge (e : Engine k σ) (current : HostedOf k) : Run k σ (List k.Change × List Warning) := do
  modifySpec (·.observe current)
  e.applyAll ((← spec).diff current)

def refresh (e : Engine k σ) : Run k σ Unit := do
  let identifier := (← spec).identifier
  let current ← call .get (e.gateway.get identifier)
  modifySpec (·.observe current)

/-- The writes that the tags of the resource need; a resource without desired tags keeps all. -/
def tagPlan (s : Spec k) (current : Tags) : TagPlan :=
  if s.shared.tags.isEmpty || s.identifier.isEmpty then .empty
  else .of s.shared.tags current k.rules.tagStrategy

def reconcileTags (e : Engine k σ) (current : Tags) : Run k σ TagPlan := do
  let s ← spec
  let plan := tagPlan s current
  if !plan.upsert.isEmpty then
    call .tag (e.gateway.tag s.identifier plan.upsert)
  if !plan.remove.isEmpty then
    call .untag (e.gateway.untag s.identifier plan.remove)
  pure plan

/-- Brings the resource, found or not, to the desired attributes: the action, what was made of it,
and the tags that it had. -/
def settle (e : Engine k σ) : Presence k → Run k σ (SyncAction × (List k.Change × List Warning) × Tags)
  | .found current => do
    let (applied, warnings) ← e.converge current
    pure (if applied.isEmpty then .unchanged else .updated, (applied, warnings), current.tags)
  | .missing drifted => do
    let made ← e.create
    pure (if drifted then .recreated else .created, made, .empty)

/-! ## The two runs -/

/-- Completes and checks the specification; a refused one stays completed. -/
def prepare : Run k σ Unit := do
  let (completed, verdict) := (← spec).prepare
  modifySpec fun _ => completed
  match verdict with
  | .ok _ => pure ()
  | .error e => throw (.validation e)

/-- Brings the resource to its desired state. -/
def sync (e : Engine k σ) (now : Instant) : Run k σ (SyncOutcome k) := do
  prepare
  let presence ← e.locate
  let (action, (applied, warnings), tags) ← e.settle presence
  if !applied.isEmpty then e.refresh
  let plan ← e.reconcileTags tags
  modifySpec fun s => { s with shared := { s.shared with lastSyncTime := some now } }
  pure ⟨action, applied, plan, warnings⟩

/-- What is known of the resource when it is deleted. -/
def deletionContext (e : Engine k σ) (s : Spec k) : DeletionContext where
  kind := k.label
  identifier := s.identifier
  naturalKey := s.name
  finalSnapshotId := s.shared.finalSnapshotId
  quiesced := s.isQuiesced
  snapshotStem := e.snapshotStem

/-- The call that an action needs, if it needs one. -/
def perform (e : Engine k σ) (s : Spec k) : DeleteAction → Run k σ Unit
  | .skip _ => pure ()
  | .delete => call .delete (e.gateway.delete s none)
  | .snapshotThenDelete id => call .delete (e.gateway.delete s (some id))
  | .stop => call .stop (e.gateway.stop s)

/-- Deletes the resource in the way that its policy asks for. -/
def delete (e : Engine k σ) : Run k σ DeleteAction := do
  let s ← spec
  match s.effectivePolicy with
  | .error refusal => throw (.validation refusal)
  | .ok policy =>
    let action := DeleteAction.resolve policy (e.deletionContext s)
    e.perform s action
    pure action

end Engine

end DesiredState
