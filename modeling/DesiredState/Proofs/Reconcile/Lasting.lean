import DesiredState.Proofs.Reconcile.History

/-!
# Conditions that last

A condition on single resources lasts if new resources satisfy it and no change, no stop and no writing
of tags ends it.  Then it holds of all resources of a host for ever, whatever is synced or deleted there,
whatever faults are pending and whenever a token cancels the work.

Contents:

* `AllHosted`, `Lasting` — conditions on hosted resources.
* `Request.Upholds`, `Run.Upholds` — requests and runs that end no such condition.
* `Deed.allHosted_afterAll` — the condition after any deeds.
-/

namespace DesiredState

variable {k : Kind} {α : Type} {I : HostedOf k → Prop}

/-- All hosted resources satisfy a condition. -/
def AllHosted (I : HostedOf k → Prop) (w : Simulator k) : Prop :=
  ∀ key h, w.hosted.get? key = some h → I h

/-- A condition that new resources satisfy, and that no request to a host ends. -/
structure Lasting (I : HostedOf k → Prop) : Prop where
  created : ∀ (s : Spec k) now identifier, I (s.materialize now identifier)
  changed : ∀ {h} c, I h → I (h.apply c)
  stopped : ∀ {h h'}, Hosted.stop h = some h' → I h → I h'
  tagged : ∀ {h} tags, I h → I { h with tags := tags }

/-! ## Requests -/

/-- A request that leaves the condition true of all hosted resources. -/
def Request.Upholds (I : HostedOf k → Prop) (request : Request (Simulator k) α) : Prop :=
  ∀ w, AllHosted I w → AllHosted I (request w).2

theorem AllHosted.insert {w : Simulator k} (all : AllHosted I w) {key : String} {h : HostedOf k}
    (holds : I h) (serial : Numbering) :
    AllHosted I { w with hosted := w.hosted.insert key h, serial := serial } := by
  intro key' h' there
  have there : (w.hosted.insert key h).get? key' = some h' := there
  by_cases own : key' = key
  · rw [own, Dict.get?_insert_self] at there
    exact Option.some.inj there ▸ holds
  · rw [Dict.get?_insert_of_ne _ _ own] at there
    exact all key' h' there

namespace Request.Upholds

theorem enter {c : Call k} {act : Request (Simulator k) α} (upholds : Upholds I act) :
    Upholds I (Simulator.enter c act) := by
  intro w all
  cases pending : w.faults c.operation with
  | some e => rw [Simulator.enter_of_fault pending]; exact all
  | none => rw [Simulator.enter_of_quiet pending]; exact upholds (w.noted c) all

theorem modifyHosted {identifier : String} {f : HostedOf k → Except GatewayError (HostedOf k)}
    (keeps : ∀ h h', f h = .ok h' → I h → I h') : Upholds I (Simulator.modifyHosted identifier f) := by
  intro w all
  unfold Simulator.modifyHosted
  split
  · exact all
  next h there =>
    split
    · exact all
    next h' changed => exact all.insert (keeps h h' changed (all identifier h there)) w.serial

theorem host (lasting : Lasting I) (now : Instant) (s : Spec k) : Upholds I (Simulator.host now s) := by
  intro w all
  unfold Simulator.host
  split
  · exact all
  · exact all.insert (lasting.created s now _) w.serial.succ

end Request.Upholds

/-! ## Runs -/

/-- A run that leaves the condition true of all hosted resources. -/
def Run.Upholds (I : HostedOf k → Prop) (run : Run k (Simulator k) α) : Prop :=
  ∀ x, AllHosted I x.world → run.Yields x fun _ y => AllHosted I y.world

theorem Run.Upholds.callKeeping {op : Operation} {request : Request (Simulator k) α}
    {keep : α → Spec k → Spec k} (upholds : request.Upholds I) :
    Run.Upholds I (Engine.callKeeping op request keep) := by
  rintro ⟨s, w, token⟩ all
  constructor
  rw [run_callKeeping_token]
  rcases token.next op with ⟨fate, token'⟩
  -- A request whose answer is lost was carried out all the same.
  cases fate with
  | refused => exact all
  | lost => exact upholds w all
  | returns => exact upholds w all

variable {settings : RunSettings} {clock : Instant} (lasting : Lasting I)
include lasting

theorem Engine.parallel_upholds :
    Engine.Parallel (fun _ run _ => Run.Upholds I run) (settings.engine clock k)
      (settings.engine clock k) where
  pure a x all := .pure all
  throw f x all := .throw all
  bind first second x all := .bind ((first x all).mono (by
    rintro (f | b) y all
    · exact all
    · exact second b y all))
  tryCatch first second _ x all := .tryCatch ((first x all).mono (by
    rintro (f | a) y all
    · exact second f y all
    · exact all))
  read x all := .spec all
  write f x all := .modifySpec all
  presence key := .callKeeping (.enter fun _ all => all)
  get key := .callKeeping (.enter fun w all => by
    split <;> exact all)
  create s := .callKeeping (.enter (.host lasting clock s))
  update s c := .callKeeping (.enter (.modifyHosted fun h h' made holds => by
    cases made
    exact lasting.changed c holds))
  tag identifier tags := .callKeeping (.enter (.modifyHosted fun h h' made holds => by
    cases made
    exact lasting.tagged _ holds))
  untag identifier keys := .callKeeping (.enter (.modifyHosted fun h h' made holds => by
    cases made
    exact lasting.tagged _ holds))

theorem Engine.sync_upholds (now : Instant) :
    Run.Upholds I ((settings.engine clock k).sync now) :=
  (Engine.parallel_upholds lasting).sync now

theorem Engine.delete_upholds : Run.Upholds I (settings.engine clock k).delete := by
  refine (Engine.parallel_upholds lasting).delete rfl (fun s snapshot => ?_) fun s => ?_
  · -- What is left after a removal was there before.
    refine .callKeeping (.enter fun w all key h there => all key h ?_)
    have there : (w.hosted.erase s.identifier).get? key = some h := there
    rw [Dict.get?_erase] at there
    split at there
    · cases there
    · exact there
  · refine .callKeeping (.enter (.modifyHosted fun h h' made holds => ?_))
    split at made
    next h'' stopped =>
      cases made
      exact lasting.stopped stopped holds
    · cases made

/-- However many deeds are done to a host, a lasting condition holds of all its resources. -/
theorem Deed.allHosted_afterAll {w : Simulator k} (all : AllHosted I w) (deeds : List (Deed k)) :
    AllHosted I (afterAll w deeds) := by
  induction deeds generalizing w with
  | nil => exact all
  | cons d deeds inductionHypothesis =>
    apply inductionHypothesis
    cases d with
    | sync settings clock now s token =>
      exact (Engine.sync_upholds lasting now ⟨s, w, token⟩ all).ends
    | delete settings clock s token =>
      exact (Engine.delete_upholds lasting ⟨s, w, token⟩ all).ends
    | arm op e => exact all

end DesiredState
