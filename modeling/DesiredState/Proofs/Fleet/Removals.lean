import DesiredState.Proofs.Fleet.Turns
import DesiredState.Proofs.Reconcile.Deletion

/-!
# The turns of a deletion

On a provider without faults no deletion of an accepted resource fails by itself: the action follows
from the policy, and what the action leaves follows from what was there.  A deletion that is cancelled
leaves all as it was.

Contents:

* `DeleteAction.leaves`, `of_leaves`, `leaves_of_keeps` — what is hosted after an action.
* `Dropped`, `deleteOne_performs` — a turn that deletes a resource.
* `Dismissed`, `deleteOne_dismissed` — the same, under a token.
-/

namespace DesiredState

variable {k : Kind} {now : Instant} {p p' : Provider} {r : Resource}

/-! ## What is left -/

/-- What is hosted of a kind after an action on an identifier. -/
def DeleteAction.leaves (action : DeleteAction) (identifier : String) (hosted : Dict (HostedOf k)) :
    Dict (HostedOf k) :=
  match action with
  | .skip _ => hosted
  | .delete => hosted.erase identifier
  | .snapshotThenDelete _ => hosted.erase identifier
  | .stop =>
    match (hosted.get? identifier).bind Hosted.stop with
    | some h => hosted.insert identifier h
    | none => hosted

namespace DeleteAction

variable {k : Kind} {hosted : Dict (HostedOf k)} {identifier key : String} {h h' : HostedOf k}

theorem leaves_of_ne (action : DeleteAction) (other : key ≠ identifier) :
    (action.leaves identifier hosted).get? key = hosted.get? key := by
  cases action with
  | skip reason => rfl
  | delete => simp [leaves, Dict.get?_erase, other]
  | snapshotThenDelete id => simp [leaves, Dict.get?_erase, other]
  | stop =>
    simp only [leaves]
    split
    · exact Dict.get?_insert_of_ne _ _ other
    · rfl

/-- What is hosted after an action was hosted before it. -/
theorem of_leaves (action : DeleteAction)
    (there : (action.leaves identifier hosted).get? key = some h') :
    ∃ h, hosted.get? key = some h ∧ h'.name = h.name ∧ h'.identifier = h.identifier := by
  by_cases own : key = identifier
  · subst own
    cases action with
    | skip reason => exact ⟨h', there, rfl, rfl⟩
    | delete => simp [leaves, Dict.get?_erase] at there
    | snapshotThenDelete id => simp [leaves, Dict.get?_erase] at there
    | stop =>
      simp only [leaves] at there
      split at there
      next h'' stopped =>
        obtain ⟨h, found, stopped⟩ := Option.bind_eq_some_iff.mp stopped
        obtain ⟨a, -, rfl⟩ := Option.map_eq_some_iff.mp stopped
        rw [Dict.get?_insert_self] at there
        obtain rfl := Option.some.inj there
        exact ⟨h, found, rfl, rfl⟩
      next => exact ⟨h', there, rfl, rfl⟩
  · rw [leaves_of_ne action own] at there
    exact ⟨h', there, rfl, rfl⟩

/-- The action takes nothing away. -/
def Keeps (action : DeleteAction) : Prop :=
  action = .stop ∨ ∃ reason, action = .skip reason

theorem leaves_of_keeps {action : DeleteAction} (keeps : action.Keeps)
    (there : hosted.get? identifier = some h) :
    ∃ h', (action.leaves identifier hosted).get? identifier = some h' ∧ h'.name = h.name := by
  rcases keeps with rfl | ⟨reason, rfl⟩
  · simp only [leaves]
    split
    next h'' stopped =>
      rw [there, Option.bind_some] at stopped
      obtain ⟨a, -, rfl⟩ := Option.map_eq_some_iff.mp stopped
      exact ⟨_, Dict.get?_insert_self .., rfl⟩
    next => exact ⟨h, there, rfl⟩
  · exact ⟨h, there, rfl⟩

theorem resolve_of_unknown {policy : DeletionPolicy} {c : DeletionContext}
    (unknown : c.identifier = "") : resolve policy c = .skip .neverCreated := by
  simp [resolve, unknown]

theorem resolve_ne_neverCreated {policy : DeletionPolicy} {c : DeletionContext}
    (known : c.identifier ≠ "") : resolve policy c ≠ .skip .neverCreated := by
  cases policy with
  | stop => by_cases quiesced : c.quiesced <;> simp [resolve, known, quiesced]
  | delete => simp [resolve, known]
  | retain => simp [resolve, known]
  | orphan => simp [resolve, known]
  | snapshot => simp [resolve, known]

end DeleteAction

/-! ## Turns -/

/-- A resource was deleted in the way that its policy asks for. -/
structure Dropped (settings : RunSettings) (now : Instant) (p : Provider) (r : Resource)
    (action : DeleteAction) (p' : Provider) : Prop where
  resolved : ∃ policy, r.spec.effectivePolicy = .ok policy ∧
    action = .resolve policy ((settings.engine now r.kind).deletionContext r.spec)
  moved : p.Moved r.kind (action.leaves r.identifier (p.hosted r.kind)) p.serial p'

/-- Kinds for which policy `Stop` is allowed can be stopped. -/
theorem Kind.stop_isSome (k : Kind) (allowed : .stop ∈ k.rules.allowedPolicies) (h : HostedOf k) :
    ∃ h', Hosted.stop h = some h' := by
  cases k <;> first | exact ⟨_, rfl⟩ | exact absurd allowed (by decide)

theorem Kind.defaultPolicy_mem (k : Kind) : k.rules.defaultPolicy ∈ k.rules.allowedPolicies := by
  cases k <;> decide

theorem Spec.mem_allowedPolicies {s : Spec k} {policy : DeletionPolicy}
    (effective : s.effectivePolicy = .ok policy) : policy ∈ k.rules.allowedPolicies := by
  unfold effectivePolicy at effective
  split at effective
  · exact Except.ok.inj effective ▸ k.defaultPolicy_mem
  · split at effective
    · cases effective
    · split at effective
      next allowed => exact Except.ok.inj effective ▸ allowed
      next => cases effective

theorem Spec.Prepared.effectivePolicy_eq {s : Spec k} (prepared : s.Prepared) :
    ∃ policy, s.effectivePolicy = .ok policy := by
  have accepted := prepared.accepted
  cases effective : s.effectivePolicy with
  | ok policy => exact ⟨policy, rfl⟩
  | error v => simp [Spec.accept, effective, bind, Except.bind] at accepted

theorem DeleteAction.of_resolve_eq_stop {policy : DeletionPolicy} {c : DeletionContext}
    (stop : resolve policy c = .stop) : policy = .stop ∧ c.identifier ≠ "" := by
  unfold resolve at stop
  split at stop
  · cases stop
  next known =>
    cases policy with
    | stop => exact ⟨rfl, by simpa using known⟩
    | delete => cases stop
    | retain => cases stop
    | orphan => cases stop
    | snapshot => cases stop

theorem perform_leaves {settings : RunSettings} {s : Spec k} {w : Simulator k}
    {action : DeleteAction} (quiet : ∀ op, w.faults op = none)
    (stops : action = .stop → ∃ h h', w.hosted.get? s.identifier = some h ∧ Hosted.stop h = some h') :
    ((settings.engine now k).perform s action).Ensures s w fun answer s' w' =>
      answer = .ok () ∧ s' = s ∧ Made w (action.leaves s.identifier w.hosted) w.serial w' := by
  cases action with
  | skip reason => exact Run.Ensures.pure ⟨rfl, rfl, .refl w⟩
  | delete =>
    exact Run.Ensures.remove (fun f w' broken => broken.struck.absurd_of_quiet quiet)
      fun w' made => ⟨rfl, rfl, made⟩
  | snapshotThenDelete id =>
    exact Run.Ensures.remove (fun f w' broken => broken.struck.absurd_of_quiet quiet)
      fun w' made => ⟨rfl, rfl, made⟩
  | stop =>
    obtain ⟨h, h', found, stopped⟩ := stops rfl
    refine Run.Ensures.halt found stopped
      (fun f w' broken => broken.struck.absurd_of_quiet quiet) fun w' made => ⟨rfl, rfl, ?_⟩
    simpa [DeleteAction.leaves, found, stopped] using made

/-- A deletion that has something to stop, if that is what it does, does not fail. -/
theorem run_delete_performs (settings : RunSettings) (now : Instant) {policy : DeletionPolicy}
    {action : DeleteAction} (effective : r.spec.effectivePolicy = .ok policy)
    (resolved : DeleteAction.resolve policy ((settings.engine now r.kind).deletionContext r.spec) =
      action)
    (stops : action = .stop → ∃ h h', (p.hosted r.kind).get? r.identifier = some h ∧
      Hosted.stop h = some h') (quiet : p.Quiet) :
    ∃ w, (settings.engine now r.kind).delete.run ⟨r.spec, p.simulator r.kind, .live⟩ =
        (.ok action, ⟨r.spec, w, .live⟩) ∧
      Dropped settings now p r action (p.withSimulator w) := by
  have ensures : (settings.engine now r.kind).delete.Ensures r.spec (p.simulator r.kind)
      fun answer s w => answer = .ok action ∧ s = r.spec ∧
        Made (p.simulator r.kind) (action.leaves r.identifier (p.hosted r.kind)) p.serial w := by
    refine Run.Ensures.delete effective ?_
    rw [resolved]
    refine (perform_leaves (w := p.simulator r.kind) (quiet r.kind) stops).mono ?_
    rintro answer s w ⟨rfl, rfl, made⟩
    exact ⟨rfl, rfl, made⟩
  obtain ⟨answer, s, w, ran, rfl, rfl, made⟩ := ensures
  exact ⟨w, ran, ⟨policy, effective, resolved.symm⟩, Provider.moved quiet made⟩

theorem deleteOne_performs (settings : RunSettings) (now : Instant) {policy : DeletionPolicy}
    {action : DeleteAction} (effective : r.spec.effectivePolicy = .ok policy)
    (resolved : DeleteAction.resolve policy ((settings.engine now r.kind).deletionContext r.spec) =
      action)
    (stops : action = .stop → ∃ h h', (p.hosted r.kind).get? r.identifier = some h ∧
      Hosted.stop h = some h') (quiet : p.Quiet) :
    ∃ p', deleteOne settings now r ⟨p, .live⟩ =
        ⟨r, .deleted r.spec action, none, ⟨p', .live⟩⟩ ∧
      Dropped settings now p r action p' := by
  obtain ⟨w, ran, dropped⟩ := run_delete_performs settings now effective resolved stops quiet
  exact ⟨_, workOn_eq ran, dropped⟩

/-- A turn has deleted its resource, or it was cancelled before that. -/
inductive Dismissed (settings : RunSettings) (now : Instant) (p : Provider) (r : Resource) :
    Turn → Prop
  | dropped {action : DeleteAction} {p' : Provider} {token' : Token} (answers : token'.Answers)
      (dropped : Dropped settings now p r action p') :
      Dismissed settings now p r ⟨r, .deleted r.spec action, none, ⟨p', token'⟩⟩
  | cut {f : Failure} {p' : Provider} {token' : Token} (cancelled : f.isCancelled = true)
      (same : ∀ k, p'.hosted k = p.hosted k) :
      Dismissed settings now p r ⟨r, .failed r f.message, some f, ⟨p', token'⟩⟩

theorem deleteOne_dismissed (settings : RunSettings) (now : Instant) (prepared : r.spec.Prepared)
    (held : r.Held p) (quiet : p.Quiet) {token : Token} (answers : token.Answers) :
    Dismissed settings now p r (deleteOne settings now r ⟨p, token⟩) := by
  obtain ⟨policy, effective⟩ := prepared.effectivePolicy_eq
  generalize resolved :
    DeleteAction.resolve policy ((settings.engine now r.kind).deletionContext r.spec) = action
  have stops : action = .stop → ∃ h h', (p.hosted r.kind).get? r.identifier = some h ∧
      Hosted.stop h = some h' := by
    rintro rfl
    obtain ⟨rfl, known⟩ := DeleteAction.of_resolve_eq_stop resolved
    obtain ⟨h, found⟩ := Dict.contains_iff.mp (held.resolve_left known)
    obtain ⟨h', stopped⟩ := r.kind.stop_isSome (Spec.mem_allowedPolicies effective) h
    exact ⟨h, h', found, stopped⟩
  obtain ⟨w, live, dropped⟩ := run_delete_performs settings now effective resolved stops quiet
  rcases (settings.engine now r.kind).delete_whole r.spec (p.simulator r.kind) answers with
    ⟨token', answers', ran⟩ | ⟨op, token', ran⟩
  · rw [live] at ran
    rw [deleteOne, workOn_eq ran]
    exact .dropped answers' dropped
  · rw [deleteOne, workOn_of_error ran]
    refine .cut rfl fun k => ?_
    by_cases same : k = r.kind
    · exact same ▸ p.hosted_withSimulator (p.simulator r.kind)
    · exact p.hosted_withSimulator_of_ne _ same

end DesiredState
