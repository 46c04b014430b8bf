import DesiredState.Proofs.Reconcile.Sync
import DesiredState.Proofs.Reconcile.Yields

/-!
# What a run keeps

Some things a run keeps whatever the gateway answers, whatever faults are pending and whenever its
token cancels it: what its specification asks for, and that nothing but a call makes it fail once the
specification was accepted.  No condition on what is hosted is needed for that.

Contents:

* `Failure.OfCall` — a call failed or was cancelled.
* `Run.Keeps` — an invariant of the specification and a bound on the failures, with its rules.
* `Engine.sync_keeps` — a sync of a prepared specification keeps its intent.
* `Engine.delete_keeps` — a deletion leaves the specification alone.
-/

namespace DesiredState

variable {k : Kind} {σ α β : Type}

/-- A call was refused or cancelled; the failure is not about the specification. -/
inductive Failure.OfCall (k : Kind) : Failure → Prop
  | provider (op : Operation) (error : GatewayError) : OfCall k (.provider k.label op error)
  | cancelled (op : Operation) : OfCall k (.cancelled k.label op)

/-- From a specification that satisfies an invariant, a run ends with one that does, and fails in
certain ways only. -/
def Run.Keeps (I : Spec k → Prop) (F : Failure → Prop) (run : Run k σ α) : Prop :=
  ∀ x, I x.spec → run.Yields x fun answer y => I y.spec ∧ ∀ f, answer = .error f → F f

namespace Run.Keeps

variable {I : Spec k → Prop} {F : Failure → Prop}

theorem pure (a : α) : Run.Keeps (σ := σ) I F (Pure.pure a) :=
  fun _ holds => .pure ⟨holds, nofun⟩

theorem throw {f : Failure} (allowed : F f) : Run.Keeps (σ := σ) (α := α) I F (MonadExcept.throw f) := by
  refine fun x holds => .throw ⟨holds, ?_⟩
  rintro _ ⟨⟩
  exact allowed

theorem bind {run : Run k σ β} {rest : β → Run k σ α} (first : Keeps I F run)
    (second : ∀ b, Keeps I F (rest b)) : Keeps I F (run >>= rest) := by
  refine fun x holds => .bind ((first x holds).mono ?_)
  rintro (f | b) y ⟨kept, fails⟩
  · refine ⟨kept, ?_⟩
    rintro _ ⟨⟩
    exact fails f rfl
  · exact second b y kept

/-- What is read is a specification that satisfies the invariant. -/
theorem read {rest : Spec k → Run k σ α} (second : ∀ s, I s → Keeps I F (rest s)) :
    Keeps I F (Engine.spec >>= rest) :=
  fun x holds => .bind (.spec (second x.spec holds x holds))

theorem tryCatch {run : Run k σ α} {handler : Failure → Run k σ α} (first : Keeps I F run)
    (second : ∀ f, F f → Keeps I F (handler f)) :
    Keeps I F (MonadExcept.tryCatch run handler) := by
  refine fun x holds => .tryCatch ((first x holds).mono ?_)
  rintro (f | a) y ⟨kept, fails⟩
  · exact second f (fails f rfl) y kept
  · exact ⟨kept, nofun⟩

theorem write {f : Spec k → Spec k} (keeps : ∀ s, I s → I (f s)) :
    Keeps (σ := σ) I F (Engine.modifySpec f) :=
  fun x holds => .modifySpec ⟨keeps x.spec holds, nofun⟩

theorem whether {condition : Prop} [Decidable condition] {run run' : Run k σ α}
    (yes : condition → Keeps I F run) (no : ¬condition → Keeps I F run') :
    Keeps I F (if condition then run else run') := by
  split
  next holds => exact yes holds
  next fails => exact no fails

section Calls

variable (called : ∀ f, f.OfCall k → F f)
include called

theorem callKeeping {op : Operation} {request : Request σ α} {keep : α → Spec k → Spec k}
    (keeps : ∀ s w a w', I s → request w = (.ok a, w') → I (keep a s)) :
    Keeps I F (Engine.callKeeping op request keep) := by
  rintro ⟨s, w, token⟩ holds
  constructor
  rw [run_callKeeping_token]
  have kept : I (Engine.kept keep (request w).1 s) := by
    rcases answered : request w with ⟨e | a, w'⟩
    · exact holds
    · exact keeps s w a w' holds answered
  rcases token.next op with ⟨fate, token'⟩
  cases fate with
  | refused =>
    refine ⟨holds, ?_⟩
    rintro _ ⟨⟩
    exact called _ (.cancelled op)
  | lost =>
    refine ⟨kept, ?_⟩
    rintro _ ⟨⟩
    exact called _ (.cancelled op)
  | returns =>
    refine ⟨kept, fun f failed => ?_⟩
    rcases answered : (request w).1 with e | a
    · rw [answered] at failed
      cases failed
      exact called _ (.provider op e)
    · rw [answered] at failed
      cases failed

theorem call {op : Operation} {request : Request σ α} : Keeps I F (Engine.call op request) :=
  callKeeping called fun _ _ _ _ holds _ => holds

end Calls

end Run.Keeps

/-! ## Deletions -/

namespace Engine

variable {s : Spec k} {e : Engine k σ}

/-- A deletion leaves the specification alone, and fails at its call unless the policy is refused. -/
theorem delete_keeps (e : Engine k σ) (s : Spec k) :
    e.delete.Keeps (fun t => t = s)
      fun f => f.OfCall k ∨ ∃ v, f = .validation v ∧ s.effectivePolicy = .error v := by
  refine .read fun t same => ?_
  subst same
  have called : ∀ f : Failure, f.OfCall k →
      f.OfCall k ∨ ∃ v, f = .validation v ∧ t.effectivePolicy = .error v := fun _ => .inl
  cases declared : t.effectivePolicy with
  | error v => exact .throw (.inr ⟨v, rfl, rfl⟩)
  | ok policy =>
    rw [declared] at called
    refine .bind ?_ fun _ => .pure _
    cases DeleteAction.resolve policy (e.deletionContext t) with
    | skip reason => exact .pure ()
    | delete => exact .call called
    | snapshotThenDelete id => exact .call called
    | stop => exact .call called

/-! ## Syncs -/

/-- What a gateway creates asks for the same as the specification that it was created from. -/
def CreatesAsAsked (e : Engine k σ) : Prop :=
  ∀ s w t w', e.gateway.create s w = (.ok t, w') → t.intent = s.intent

/-- A run keeps what a specification asks for, and fails at its calls only. -/
abbrev KeepsIntent (s : Spec k) (run : Run k σ α) : Prop :=
  run.Keeps (fun t => t.intent = s.intent) (·.OfCall k)

theorem locateByName_keeps : KeepsIntent s e.locateByName := by
  refine .read fun t _ => .bind (.call fun _ => id) fun present => ?_
  refine .whether (fun _ => ?_) fun _ => .pure _
  refine .bind (.call fun _ => id) fun current => ?_
  exact .bind (.write fun _ same => same) fun _ => .pure _

theorem locate_keeps : KeepsIntent s e.locate := by
  refine .read fun t _ => .whether (fun _ => locateByName_keeps) fun _ => ?_
  refine .bind (.call fun _ => id) fun present => .whether ?_ ?_
  · exact fun _ => .bind (.call fun _ => id) fun current => .pure _
  · refine fun _ => .bind (.write fun _ same => same) fun _ => .bind locateByName_keeps ?_
    rintro (current | drifted) <;> exact .pure _

theorem applyAll_keeps (cs : List k.Change) : KeepsIntent s (e.applyAll cs) := by
  induction cs with
  | nil => exact .pure _
  | cons c cs inductionHypothesis =>
    refine .bind ?_ fun _ => .bind inductionHypothesis fun _ => .pure _
    refine .read fun t _ => .tryCatch (.bind (.call fun _ => id) fun _ => .pure _) fun f called => ?_
    exact .whether (fun _ => .pure _) fun _ => .throw called

theorem settle_keeps (creates : e.CreatesAsAsked) (presence : Presence k) :
    KeepsIntent s (e.settle presence) := by
  cases presence with
  | found current =>
    refine .bind (.bind (.write fun _ same => same) fun _ => .read fun t _ => applyAll_keeps _) ?_
    rintro ⟨applied, warnings⟩
    exact .pure _
  | missing drifted =>
    refine .bind (.read fun t same => .bind ?_ fun _ => .read fun t' _ => .whether ?_ ?_)
      fun _ => .pure _
    · refine .callKeeping (fun _ => id) fun _ w created w' _ answered => ?_
      exact (creates t w created w' answered).trans same
    · exact fun _ => .throw (.provider _ _)
    · exact fun _ => applyAll_keeps _

theorem reconcileTags_keeps (current : Tags) : KeepsIntent s (e.reconcileTags current) := by
  unfold reconcileTags
  refine .read fun t _ => ?_
  dsimp only
  -- Both branches of the first condition go on with the same removals.
  have removals : ∀ plan : TagPlan, KeepsIntent s
      (if (!plan.remove.isEmpty) = true then do
        call .untag (e.gateway.untag t.identifier plan.remove)
        Pure.pure plan
      else Pure.pure plan) :=
    fun plan => .whether (fun _ => .bind (.call fun _ => id) fun _ => .pure _) fun _ => .pure _
  exact .whether (fun _ => .bind (.call fun _ => id) fun _ => removals _) fun _ => removals _

theorem conclude_keeps (now : Instant) (action : SyncAction) (applied : List k.Change)
    (warnings : List Warning) (tags : Tags) :
    KeepsIntent s (e.conclude now action applied warnings tags) := by
  have rest : KeepsIntent s (do
      let plan ← e.reconcileTags tags
      modifySpec fun s => { s with shared := { s.shared with lastSyncTime := some now } }
      Pure.pure (⟨action, applied, plan, warnings⟩ : SyncOutcome k)) :=
    .bind (reconcileTags_keeps tags) fun _ => .bind (.write fun _ same => same) fun _ => .pure _
  refine .whether (fun _ => .bind (.read fun t _ => ?_) fun _ => rest) fun _ => rest
  exact .bind (.call fun _ => id) fun _ => .write fun _ same => same

/-- A sync of a prepared specification keeps its intent and fails at no check. -/
theorem sync_keeps (creates : e.CreatesAsAsked) (prepared : s.Prepared) (now : Instant) :
    KeepsIntent s (e.sync now) := by
  rw [sync_eq]
  refine .bind (.read fun t same => ?_) fun _ => .bind locate_keeps fun presence => ?_
  · rw [(prepared.of_intent same).prepare_eq]
    exact .bind (.write fun _ _ => same) fun _ => .pure _
  · exact .bind (settle_keeps creates presence) fun _ => conclude_keeps now _ _ _ _

/-- A simulated host tells an identifier and what is observed, which no intent speaks of. -/
theorem createsAsAsked (settings : RunSettings) (clock : Instant) (k : Kind) :
    (settings.engine clock k).CreatesAsAsked := by
  intro s w t w' created
  simp only [RunSettings.engine, Simulator.gateway, Simulator.enter, Simulator.host] at created
  split at created
  · cases created
  · split at created
    · cases created
    · cases created
      rfl

end Engine

end DesiredState
