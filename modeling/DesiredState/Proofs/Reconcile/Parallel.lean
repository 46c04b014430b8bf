import DesiredState.Proofs.Reconcile.Sync

/-!
# Engines side by side

Syncs and deletions are put together from steps and calls in the same way whatever the engine is.  So
a relation between the runs of two engines that holds of their calls, and that sequences and handlers
respect, holds of their syncs and of their deletions.

Contents:

* `Engine.Parallel` — the relations.
* `Engine.Parallel.sync`, `Engine.Parallel.delete` — they hold of whole runs.
-/

namespace DesiredState

variable {k : Kind} {σ σ' α : Type}

/-- A relation between runs that holds of the steps and calls of two engines, and of what is put
together from related runs.  Of a handler it may be used that no cancellation stops there. -/
structure Engine.Parallel (P : (α : Type) → Run k σ α → Run k σ' α → Prop) (e : Engine k σ)
    (e' : Engine k σ') : Prop where
  pure : ∀ {α : Type} (a : α), P α (Pure.pure a) (Pure.pure a)
  throw : ∀ {α : Type} (f : Failure), P α (MonadExcept.throw f) (MonadExcept.throw f)
  bind : ∀ {α β : Type} {run : Run k σ β} {run' : Run k σ' β} {rest : β → Run k σ α}
    {rest' : β → Run k σ' α}, P β run run' → (∀ b, P α (rest b) (rest' b)) →
    P α (run >>= rest) (run' >>= rest')
  tryCatch : ∀ {α : Type} {run : Run k σ α} {run' : Run k σ' α} {handler : Failure → Run k σ α}
    {handler' : Failure → Run k σ' α}, P α run run' → (∀ f, P α (handler f) (handler' f)) →
    (∀ f, f.isCancelled = true → handler f = MonadExcept.throw f) →
    P α (MonadExcept.tryCatch run handler) (MonadExcept.tryCatch run' handler')
  read : P (Spec k) Engine.spec Engine.spec
  write : ∀ f, P Unit (Engine.modifySpec f) (Engine.modifySpec f)
  presence : ∀ key, P Bool (call .presence (e.gateway.presence key))
    (call .presence (e'.gateway.presence key))
  get : ∀ key, P (HostedOf k) (call .get (e.gateway.get key)) (call .get (e'.gateway.get key))
  create : ∀ s, P (Spec k) (callKeeping .create (e.gateway.create s) fun created _ => created)
    (callKeeping .create (e'.gateway.create s) fun created _ => created)
  update : ∀ s c, P Unit (call .update (e.gateway.update s c)) (call .update (e'.gateway.update s c))
  tag : ∀ identifier tags, P Unit (call .tag (e.gateway.tag identifier tags))
    (call .tag (e'.gateway.tag identifier tags))
  untag : ∀ identifier keys, P Unit (call .untag (e.gateway.untag identifier keys))
    (call .untag (e'.gateway.untag identifier keys))

namespace Engine.Parallel

variable {P : (α : Type) → Run k σ α → Run k σ' α → Prop} {e : Engine k σ} {e' : Engine k σ'}
  (par : Engine.Parallel P e e')
include par

/-! ## Syncs -/

theorem prepare : P Unit Engine.prepare Engine.prepare := by
  unfold Engine.prepare
  refine par.bind par.read fun s => ?_
  rcases s.prepare with ⟨completed, verdict⟩
  refine par.bind (par.write _) fun _ => ?_
  cases verdict with
  | error e => exact par.throw _
  | ok _ => exact par.pure _

theorem locateByName : P (Presence k) e.locateByName e'.locateByName := by
  unfold Engine.locateByName
  refine par.bind par.read fun s => par.bind (par.presence _) fun there => ?_
  cases there with
  | false => exact par.pure _
  | true => exact par.bind (par.get _) fun _ => par.bind (par.write _) fun _ => par.pure _

theorem locate : P (Presence k) e.locate e'.locate := by
  unfold Engine.locate
  refine par.bind par.read fun s => ?_
  dsimp only
  split
  · exact par.locateByName
  · refine par.bind (par.presence _) fun there => ?_
    cases there with
    | true => exact par.bind (par.get _) fun _ => par.pure _
    | false =>
      refine par.bind (par.write _) fun _ => par.bind par.locateByName fun presence => ?_
      cases presence <;> exact par.pure _

theorem applyOne (c : k.Change) :
    P (List k.Change × List Warning) (e.applyOne c) (e'.applyOne c) := by
  unfold Engine.applyOne
  refine par.bind par.read fun s => par.tryCatch (par.bind (par.update s c) fun _ => par.pure _) ?_ ?_
  · intro f
    split
    · exact par.pure _
    · exact par.throw f
  -- Cancelling is no failure of a best-effort change.
  · intro f cancelled
    simp [cancelled]

theorem applyAll (cs : List k.Change) :
    P (List k.Change × List Warning) (e.applyAll cs) (e'.applyAll cs) := by
  induction cs with
  | nil => exact par.pure _
  | cons c cs inductionHypothesis =>
    unfold Engine.applyAll
    exact par.bind (par.applyOne c) fun _ => par.bind inductionHypothesis fun _ => par.pure _

theorem createAndChange : P (List k.Change × List Warning) e.create e'.create := by
  unfold Engine.create
  refine par.bind par.read fun s => par.bind (par.create s) fun _ => par.bind par.read fun s => ?_
  split
  · exact par.throw _
  · exact par.applyAll _

theorem settle (presence : Presence k) :
    P (SyncAction × (List k.Change × List Warning) × Tags) (e.settle presence)
      (e'.settle presence) := by
  cases presence with
  | found current =>
    unfold Engine.settle Engine.converge
    refine par.bind ?_ fun _ => par.pure _
    exact par.bind (par.write _) fun _ => par.bind par.read fun s => par.applyAll _
  | missing drifted =>
    unfold Engine.settle
    exact par.bind par.createAndChange fun _ => par.pure _

theorem reconcileTags (current : Tags) :
    P TagPlan (e.reconcileTags current) (e'.reconcileTags current) := by
  unfold Engine.reconcileTags
  refine par.bind par.read fun s => ?_
  dsimp only
  -- The removals come after the writes if there are any, and by themselves if not.
  have removals : ∀ plan : TagPlan, P TagPlan
      (if (!plan.remove.isEmpty) = true then do
        Engine.call .untag (e.gateway.untag s.identifier plan.remove)
        Pure.pure plan
      else Pure.pure plan)
      (if (!plan.remove.isEmpty) = true then do
        Engine.call .untag (e'.gateway.untag s.identifier plan.remove)
        Pure.pure plan
      else Pure.pure plan) := by
    intro plan
    split
    · exact par.bind (par.untag _ _) fun _ => par.pure _
    · exact par.pure _
  split
  · exact par.bind (par.tag _ _) fun _ => removals _
  · exact removals _

theorem conclude (now : Instant) (action : SyncAction) (applied : List k.Change)
    (warnings : List Warning) (tags : Tags) :
    P (SyncOutcome k) (e.conclude now action applied warnings tags)
      (e'.conclude now action applied warnings tags) := by
  have rest : P (SyncOutcome k) (do
      let plan ← e.reconcileTags tags
      Engine.modifySpec fun s => { s with shared := { s.shared with lastSyncTime := some now } }
      Pure.pure (⟨action, applied, plan, warnings⟩ : SyncOutcome k)) (do
      let plan ← e'.reconcileTags tags
      Engine.modifySpec fun s => { s with shared := { s.shared with lastSyncTime := some now } }
      Pure.pure ⟨action, applied, plan, warnings⟩) :=
    par.bind (par.reconcileTags tags) fun _ => par.bind (par.write _) fun _ => par.pure _
  unfold Engine.conclude
  dsimp only
  split
  · refine par.bind ?_ fun _ => rest
    unfold Engine.refresh
    exact par.bind par.read fun s => par.bind (par.get _) fun _ => par.write _
  · exact rest

theorem sync (now : Instant) : P (SyncOutcome k) (e.sync now) (e'.sync now) := by
  rw [sync_eq, sync_eq]
  refine par.bind par.prepare fun _ => par.bind par.locate fun presence => ?_
  exact par.bind (par.settle presence) fun _ => par.conclude now _ _ _ _

/-! ## Deletions -/

/-- Two more calls are needed for deletions, and final snapshots must get the same names. -/
theorem delete (stems : e.snapshotStem = e'.snapshotStem)
    (removes : ∀ s snapshot, P Unit (call .delete (e.gateway.delete s snapshot))
      (call .delete (e'.gateway.delete s snapshot)))
    (stops : ∀ s, P Unit (call .stop (e.gateway.stop s)) (call .stop (e'.gateway.stop s))) :
    P DeleteAction e.delete e'.delete := by
  unfold Engine.delete
  refine par.bind par.read fun s => ?_
  have context : e.deletionContext s = e'.deletionContext s := by
    rw [deletionContext, deletionContext, stems]
  rw [context]
  cases s.effectivePolicy with
  | error v => exact par.throw _
  | ok policy =>
    refine par.bind ?_ fun _ => par.pure _
    cases DeleteAction.resolve policy (e'.deletionContext s) with
    | skip reason => exact par.pure _
    | delete => exact removes s none
    | snapshotThenDelete id => exact removes s (some id)
    | stop => exact stops s

end Engine.Parallel

end DesiredState
