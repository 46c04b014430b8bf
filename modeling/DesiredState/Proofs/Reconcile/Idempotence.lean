import DesiredState.Proofs.Reconcile.Convergence
import DesiredState.Proofs.Reconcile.Simulation

/-!
# Idempotence

A sync that answers without warnings leaves nothing to be done: syncing again looks the resource up,
reads it, and changes nothing but the time of the last sync.  This holds for every specification,
also for one that has strayed to an identifier that is another resource's name; such a sync succeeds
only if there was nothing to do in the first place.

Contents:

* `AtRest` — nothing is left to be done.
* `run_sync_of_atRest` — what a sync does then, call by call.
* `Finished.atRest`, `sync_atRest` — clean syncs leave nothing to be done.
* `sync_idempotent` — the main result.
-/

namespace DesiredState

variable {k : Kind} {settings : RunSettings} {clock now : Instant} {s s' : Spec k}
  {w w' : Simulator k} {h : HostedOf k}

/-- The resource is there as it is asked for, and everything about it is known. -/
structure AtRest (s : Spec k) (w : Host k) (h : HostedOf k) : Prop where
  prepared : s.Prepared
  known : s.identifier ≠ ""
  there : w.current? s.identifier = some h
  diff : s.diff h = []
  plan : Engine.tagPlan s h.tags = .empty
  seen : s.observe h = s

/-! ## A sync of a resource at rest -/

open Run.Ensures

namespace Run

theorem run_presence (settings : RunSettings) (clock : Instant) (s : Spec k) (key : String)
    (quiet : w.faults .presence = none) :
    (Engine.call .presence ((settings.engine clock k).gateway.presence key)).run ⟨s, w, .live⟩ =
      (.ok (Host.find? w.hosted key).isSome, ⟨s, w.noted (.presence key), .live⟩) := by
  rw [Engine.call, run_callKeeping]
  simp only [RunSettings.engine, Simulator.gateway,
    Simulator.enter_of_quiet (show w.faults (Call.presence (k := k) key).operation = none from quiet)]
  rfl

theorem run_get (settings : RunSettings) (clock : Instant) (s : Spec k) {key : String}
    (quiet : w.faults .get = none) (there : w.current? key = some h) :
    (Engine.call .get ((settings.engine clock k).gateway.get key)).run ⟨s, w, .live⟩ =
      (.ok h, ⟨s, w.noted (.get key), .live⟩) := by
  have there' : (w.noted (.get key)).current? key = some h := there
  rw [Engine.call, run_callKeeping]
  simp only [RunSettings.engine, Simulator.gateway,
    Simulator.enter_of_quiet (show w.faults (Call.get (k := k) key).operation = none from quiet), there']
  rfl

end Run

/-- The specification after another sync at some time. -/
def Spec.syncedAgain (s : Spec k) (now : Instant) : Spec k :=
  { s with shared := { s.shared with lastSyncTime := some now } }

/-- A sync of a resource at rest asks for its presence, reads it, and leaves it alone. -/
theorem run_sync_of_atRest (rest : AtRest s w.toHost h) (quiet : ∀ op, w.faults op = none) :
    ((settings.engine clock k).sync now).run ⟨s, w, .live⟩ =
      (.ok ⟨.unchanged, [], .empty, []⟩,
        ⟨s.syncedAgain now, (w.noted (.presence s.identifier)).noted (.get s.identifier), .live⟩) := by
  obtain ⟨prepared, known, there, diff, plan, seen⟩ := rest
  have present : (Host.find? w.hosted s.identifier).isSome = true := by
    obtain ⟨id, found, -⟩ := Option.bind_eq_some_iff.mp there
    rw [found, Option.isSome_some]
  suffices ensures : ((settings.engine clock k).sync now).Ensures s w fun answer s' w' =>
      answer = .ok ⟨.unchanged, [], .empty, []⟩ ∧ s' = s.syncedAgain now ∧
        w' = (w.noted (.presence s.identifier)).noted (.get s.identifier) by
    obtain ⟨answer, s', w', ran, rfl, rfl, rfl⟩ := ensures
    exact ran
  have asked := Run.run_presence settings clock s s.identifier (quiet .presence)
  have read := Run.run_get settings clock s (w := w.noted (.presence s.identifier)) (quiet .get) there
  rw [present] at asked
  rw [Engine.sync_eq]
  refine bind (prepare (by rw [prepared.prepare_eq]) (bind ?_))
  rw [prepared.prepare_eq]
  unfold Engine.locate
  refine bind (spec ?_)
  dsimp only
  rw [if_neg (by simpa using known)]
  refine bind ⟨_, _, _, asked, bind ⟨_, _, _, read, pure (bind ?_)⟩⟩
  -- Nothing differs, so there is nothing to apply, and what is copied is known already.
  unfold Engine.settle Engine.converge
  refine bind (bind (modifySpec (bind (spec ?_))))
  rw [seen]
  dsimp only
  rw [diff]
  refine pure (pure ?_)
  unfold Engine.conclude Engine.reconcileTags
  refine bind (bind (spec ?_))
  dsimp only
  rw [plan]
  exact pure (bind (modifySpec (pure ⟨rfl, rfl, rfl⟩)))

/-! ## Clean syncs leave nothing to be done -/

theorem Finished.atRest {o : SyncOutcome k} (finished : Finished s clock now w o s' w')
    (consistent : Consistent w.hosted) (prepared : s.Prepared) :
    AtRest s' w'.toHost (s.settled (s.origin clock w)) := by
  obtain ⟨-, -, rfl, world⟩ := finished
  have known := s.identifier_origin_ne_empty consistent clock
  refine ⟨prepared.of_intent rfl, known, ?_, s.diff_settled _, ?_, rfl⟩
  · apply Host.current?_of_get?
    rw [world.hosted]
    exact Dict.get?_insert_self ..
  · exact Spec.tagPlan_settledTags (s.synced now (s.settled (s.origin clock w))) _

/-- A specification that has strayed changes nothing: every change goes to an identifier under which
nothing is hosted. -/
theorem applyAll_astray
    {post : Except Failure (List k.Change × List Warning) → Spec k → Simulator k → Prop}
    {cs : List k.Change} (absent : w.hosted.get? s.identifier = none)
    (failed : ∀ f w', post (.error f) s w')
    (warned : ∀ warnings w', warnings ≠ [] → Spent w w' → w'.hosted = w.hosted →
      post (.ok ([], warnings)) s w')
    (nothing : cs = [] → post (.ok ([], [])) s w) :
    ((settings.engine clock k).applyAll cs).Ensures s w post := by
  induction cs generalizing w post with
  | nil => exact pure (nothing rfl)
  | cons c cs inductionHypothesis =>
    unfold Engine.applyAll Engine.applyOne
    refine bind (bind (spec (tryCatch (bind (modified_absent absent fun f w' spent same => ?_)))))
    dsimp only
    split
    · refine pure (bind (inductionHypothesis (same ▸ absent) failed ?_ ?_))
      · intro warnings w'' _ spent' same'
        exact pure (warned _ w'' (by simp) (spent.trans spent') (same'.trans same))
      · intro _
        exact pure (warned _ w' (by simp) spent same)
    · exact throw (failed f w')

theorem reconcileTags_astray {post : Except Failure TagPlan → Spec k → Simulator k → Prop}
    {tags : Tags} (absent : w.hosted.get? s.identifier = none) (failed : ∀ f w', post (.error f) s w')
    (nothing : Engine.tagPlan s tags = .empty → post (.ok .empty) s w) :
    ((settings.engine clock k).reconcileTags tags).Ensures s w post := by
  unfold Engine.reconcileTags
  refine bind (spec ?_)
  dsimp only
  generalize Engine.tagPlan s tags = plan at nothing
  split
  next _ => exact bind (modified_absent absent fun f w' _ _ => failed f w')
  next written =>
    split
    next _ => exact bind (modified_absent absent fun f w' _ _ => failed f w')
    next removed =>
      -- Nothing to write and nothing to remove: the plan is the empty one.
      have upsert : plan.upsert = .empty := by simpa [Dict.isEmpty_iff] using written
      have remove : plan.remove = [] := by simpa using removed
      obtain rfl : plan = .empty := by
        obtain ⟨_, _⟩ := plan
        simp only at upsert remove
        rw [upsert, remove, TagPlan.empty]
      exact pure (nothing rfl)

/-- The last part of a sync that has strayed: it succeeds only if the tags are right already. -/
theorem conclude_astray {action : SyncAction} {warnings : List Warning} {tags : Tags}
    (absent : w.hosted.get? s.identifier = none) :
    ((settings.engine clock k).conclude now action [] warnings tags).Ensures s w
      fun answer s' w' => ∀ o, answer = .ok o →
        o.warnings = warnings ∧ Engine.tagPlan s tags = .empty ∧ s' = s.syncedAgain now ∧ w' = w := by
  unfold Engine.conclude
  refine bind (reconcileTags_astray absent (fun _ _ => nofun) fun nothing => ?_)
  refine bind (modifySpec (pure ?_))
  rintro o ⟨⟩
  exact ⟨rfl, nothing, rfl, rfl⟩

/-- A sync that has strayed and is clean had nothing to do. -/
theorem finish_astray (prepared : s.Prepared) (known : s.identifier ≠ "")
    (absent : w.hosted.get? s.identifier = none) (there : w.current? s.identifier = some h) :
    Run.Ensures (do
      let (action, (applied, warnings), tags) ← (settings.engine clock k).settle (.found h)
      (settings.engine clock k).conclude now action applied warnings tags) s w fun answer s' w' =>
        ∀ o, answer = .ok o → o.warnings = [] → AtRest s' w'.toHost h := by
  unfold Engine.settle Engine.converge
  refine bind (bind (bind (modifySpec (bind (spec (applyAll_astray absent ?_ ?_ ?_))))))
  -- A difference cannot be made up for: each of its changes fails or leaves a warning.
  · exact fun _ _ => nofun
  · intro warnings w' some _ same
    refine pure ((conclude_astray (s := s.observe h) (same ▸ absent)).mono ?_)
    intro answer s' w'' clean o answered none
    exact absurd ((clean o answered).1.symm.trans none) some
  · intro diff
    refine pure ((conclude_astray (s := s.observe h) absent).mono ?_)
    intro answer s' w' clean o answered _
    obtain ⟨-, plan, rfl, rfl⟩ := clean o answered
    exact ⟨prepared.of_intent rfl, known, there, diff, plan, rfl⟩

theorem sync_atRest (consistent : Consistent w.hosted) :
    ((settings.engine clock k).sync now).Ensures s w fun answer s' w' =>
      ∀ o, answer = .ok o → o.warnings = [] → ∃ h, AtRest s' w'.toHost h := by
  cases accepted : s.prepare.2 with
  | error v =>
    refine (sync_refused accepted).mono ?_
    rintro _ s' w' ⟨rfl, -, -⟩
    exact nofun
  | ok =>
    have prepared := Spec.prepared_prepare accepted
    apply sync_or_astray accepted consistent
    -- A sync that ended on the way did not answer, or it answered with warnings.
    · rintro answer s' w' (⟨o, rfl, finished⟩ | ⟨unclean, -⟩) o' answered clean
      · exact ⟨_, finished.atRest consistent prepared⟩
      · exact absurd clean (unclean o' answered).1
    -- It may have strayed; then nothing is hosted under the identifier, and every change is refused.
    · intro h w' known absent there idle
      have absent' : w'.hosted.get? s.prepare.1.identifier = none := by rwa [idle.hosted]
      have there' := (idle.current?_eq s.prepare.1.identifier).trans there
      refine (finish_astray prepared known absent' there').mono ?_
      exact fun answer s' w'' rest o answered clean => ⟨h, rest o answered clean⟩

/-! ## The second sync -/

/-- After a clean sync, under whatever token and whatever faults, another one under a token that
nothing cancels finds nothing to do. -/
theorem sync_idempotent (settings : RunSettings) (clock clock' now now' : Instant)
    (consistent : Consistent w.hosted) {token : Token} {o : SyncOutcome k}
    {last : Session k (Simulator k)}
    (ran : ((settings.engine clock k).sync now).run ⟨s, w, token⟩ = (.ok o, last))
    (clean : o.warnings = []) :
    ((settings.engine clock' k).sync now').run ⟨last.spec, last.world.calm, .live⟩ =
      (.ok ⟨.unchanged, [], .empty, []⟩,
        ⟨last.spec.syncedAgain now',
          (last.world.calm.noted (.presence last.spec.identifier)).noted (.get last.spec.identifier),
          .live⟩) := by
  have live := (settings.engine clock k).run_sync_live now ran
  obtain ⟨h, rest⟩ := ((sync_atRest consistent).elim live).1 o rfl clean
  exact run_sync_of_atRest (w := last.world.calm) ⟨rest.prepared, rest.known, rest.there, rest.diff,
    rest.plan, rest.seen⟩ fun _ => rfl

theorem sync_idempotent_key :
    ((({} : RunSettings).engine .epoch .cryptoKey).sync .epoch).Ensures Sample.spec
      (Sample.host fun _ => none) fun answer s' w' =>
        (∃ o, answer = .ok o ∧ o.warnings = []) ∧
          ((({} : RunSettings).engine .epoch .cryptoKey).sync .epoch).run ⟨s', w'.calm, .live⟩ =
            (.ok ⟨.unchanged, [], .empty, []⟩,
              ⟨s'.syncedAgain .epoch,
                (w'.calm.noted (.presence s'.identifier)).noted (.get s'.identifier), .live⟩) := by
  have consistent := Sample.consistent_host fun _ => none
  have first : ((({} : RunSettings).engine .epoch .cryptoKey).sync .epoch).Ensures Sample.spec
      (Sample.host fun _ => none) _ :=
    Run.Ensures.sync_quiet Sample.accepted consistent (.inl rfl) fun _ => rfl
  obtain ⟨answer, s', w', ran, o, rfl, finished⟩ := first
  have second := sync_idempotent {} .epoch .epoch .epoch .epoch consistent ran finished.warnings
  exact ⟨_, s', w', ran, ⟨o, rfl, finished.warnings⟩, second⟩

end DesiredState
