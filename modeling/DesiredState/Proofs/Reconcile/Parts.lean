import DesiredState.Proofs.Reconcile.Requests
import DesiredState.Proofs.Resource.Settled

/-!
# The parts of a sync

What each part of a sync does to a consistent simulated host, whatever faults are pending.  A part
fails only where a fault strikes, and what it leaves behind then is on the way to what it would have
done without the fault.

Contents:

* `locateByName`, `locate` — looking for the resource.
* `Attempted` — changes that were made, and best-effort changes that were not.
* `applyOne`, `applyAll` — changes.
* `refresh`, `reconcileTags` — the second reading and the tags.
-/

namespace DesiredState

variable {k : Kind} {α : Type}

/-- The specification while its resource is being looked for: it may have lost an identifier that is
no key. -/
structure Looking (s : Spec k) (hosted : Dict (HostedOf k)) (s' : Spec k) : Prop where
  intent : s'.intent = s.intent
  identifier : s'.identifier = s.identifier ∨ s'.identifier = "" ∧ hosted.get? s.identifier = none

/-- Some of the changes are made; the others are best-effort, and there is a warning for each. -/
inductive Attempted : List k.Change → List k.Change → List k.Change → List Warning → Prop
  | nil : Attempted [] [] [] []
  | made (c : k.Change) {cs done missed : List k.Change} {warnings : List Warning}
      (rest : Attempted cs done missed warnings) :
      Attempted (c :: cs) (c :: done) missed warnings
  | missed {c : k.Change} {cs done missed : List k.Change} {warnings : List Warning}
      (bestEffort : k.rules.isBestEffort c = true) (error : String)
      (rest : Attempted cs done missed warnings) :
      Attempted (c :: cs) done (c :: missed) (⟨k.rules.changeText c, error⟩ :: warnings)

namespace Attempted

variable {cs done missed : List k.Change} {warnings : List Warning}

theorem all (cs : List k.Change) : Attempted cs cs [] [] := by
  induction cs with
  | nil => exact .nil
  | cons c _ inductionHypothesis => exact .made c inductionHypothesis

theorem part (attempted : Attempted cs done missed warnings) : done.Sublist cs := by
  induction attempted with
  | nil => exact .slnil
  | made c _ inductionHypothesis => exact inductionHypothesis.cons_cons c
  | missed _ _ _ inductionHypothesis => exact inductionHypothesis.cons _

/-- Where no warning is, nothing was missed. -/
theorem done_eq_of_clean (attempted : Attempted cs done missed warnings) (clean : warnings = []) :
    done = cs := by
  induction attempted with
  | nil => rfl
  | made c _ inductionHypothesis => rw [inductionHypothesis clean]
  | missed _ _ _ _ => cases clean

end Attempted

namespace Run.Ensures

variable {settings : RunSettings} {clock : Instant} {s : Spec k} {w : Simulator k} {h : HostedOf k}

/-! ## Looking for the resource -/

theorem locateByName {post : Except Failure (Presence k) → Spec k → Simulator k → Prop}
    (consistent : Consistent w.hosted)
    (broken : ∀ f w', Broken w w.hosted w.serial w' → post (.error f) s w')
    (found : ∀ h w', w.current? s.name = some h → Made w w.hosted w.serial w' →
      post (.ok (.found h)) (s.withIdentifier h.identifier) w')
    (missing : ∀ w', w.current? s.name = none → Made w w.hosted w.serial w' →
      post (.ok (.missing false)) s w') :
    ((settings.engine clock k).locateByName).Ensures s w post := by
  unfold Engine.locateByName
  refine bind (spec ?_)
  refine bind (presence broken fun w' asked => ?_)
  rw [Host.isSome_find? consistent]
  cases there : w.current? s.name with
  | none => exact pure (missing w' there asked)
  | some h =>
    have there' := (asked.current?_eq s.name).trans there
    refine bind (get there' (fun f w'' refused => broken f w'' (asked.cut refused)) ?_)
    intro w'' read
    exact bind (modifySpec (pure (found h w'' there (asked.still read))))

/-- The resource is found under its identifier or its name, or a specification has strayed: what
should be its identifier is another resource's name. -/
theorem locate {post : Except Failure (Presence k) → Spec k → Simulator k → Prop}
    (consistent : Consistent w.hosted)
    (broken : ∀ f s' w', Looking s w.hosted s' → Broken w w.hosted w.serial w' →
      post (.error f) s' w')
    (found : ∀ h s' w', s.resource? w.toHost = some h → s'.intent = s.intent →
      s'.identifier = h.identifier → Made w w.hosted w.serial w' → post (.ok (.found h)) s' w')
    (missing : ∀ drifted s' w', s.resource? w.toHost = none → s'.intent = s.intent →
      s'.identifier = "" → Made w w.hosted w.serial w' → post (.ok (.missing drifted)) s' w')
    (astray : ∀ h w', s.identifier ≠ "" → w.hosted.get? s.identifier = none →
      w.current? s.identifier = some h → Made w w.hosted w.serial w' → post (.ok (.found h)) s w') :
    ((settings.engine clock k).locate).Ensures s w post := by
  unfold Engine.locate
  refine bind (spec ?_)
  simp only []
  by_cases unknown : s.identifier = ""
  · have absent : w.hosted.get? s.identifier = none := by
      rw [unknown]
      exact consistent.get?_empty_text
    rw [if_pos (String.isEmpty_iff.mpr unknown)]
    apply locateByName consistent
    · exact fun f w' => broken f s w' ⟨rfl, .inl rfl⟩
    · exact fun h w' there => found h _ w' (by rw [Spec.resource?_of_absent absent, there]) rfl rfl
    · exact fun w' there => missing false s w' (by rw [Spec.resource?_of_absent absent, there]) rfl unknown
  · rw [if_neg (by simpa using unknown)]
    refine bind (presence (fun f w' => broken f s w' ⟨rfl, .inl rfl⟩) fun w' asked => ?_)
    rw [Host.isSome_find? consistent]
    cases there : w.current? s.identifier with
    | some h =>
      have there' := (asked.current?_eq s.identifier).trans there
      refine bind (get there' ?_ fun w'' read => ?_)
      · exact fun f w'' refused => broken f s w'' ⟨rfl, .inl rfl⟩ (asked.cut refused)
      -- Something answers to the identifier, but perhaps only because it is named like that.
      · cases key : w.hosted.get? s.identifier with
        | none => exact pure (astray h w'' unknown key there (asked.still read))
        | some h' =>
          rw [Host.current?_of_get? key] at there
          obtain rfl := Option.some.inj there
          obtain ⟨-, same⟩ := consistent _ _ key
          exact pure (found _ s w'' (Spec.resource?_of_get? key) rfl same.symm (asked.still read))
    | none =>
      have absent : w.hosted.get? s.identifier = none := by
        cases key : w.hosted.get? s.identifier with
        | none => rfl
        | some h =>
          rw [Host.current?_of_get? key] at there
          cases there
      -- The resource has vanished under its identifier, but its name may still be in use.
      refine bind (modifySpec (bind ?_))
      have same : w'.current? s.name = s.resource? w.toHost := by
        rw [Spec.resource?_of_absent absent, asked.current?_eq]
      apply locateByName (asked.hosted ▸ consistent)
      · exact fun f w'' refused => broken f _ w'' ⟨rfl, .inr ⟨rfl, absent⟩⟩ (asked.cut refused)
      · intro h w'' there' read
        exact pure (found h _ w'' (same ▸ there') rfl rfl (asked.still read))
      · intro w'' there' read
        exact pure (missing true _ w'' (same ▸ there') rfl rfl (asked.still read))

/-! ## Changes -/

/-- A best-effort change that a fault refuses becomes a warning. -/
theorem applyOne {post : Except Failure (List k.Change × List Warning) → Spec k → Simulator k → Prop}
    {c : k.Change} (there : w.hosted.get? s.identifier = some h)
    (broken : ∀ f w', Broken w w.hosted w.serial w' → post (.error f) s w')
    (warned : ∀ error w', k.rules.isBestEffort c = true → Broken w w.hosted w.serial w' →
      post (.ok ([], [⟨k.rules.changeText c, error⟩])) s w')
    (made : ∀ w', Made w (w.hosted.insert s.identifier (h.apply c)) w.serial w' →
      post (.ok ([c], [])) s w') :
    ((settings.engine clock k).applyOne c).Ensures s w post := by
  unfold Engine.applyOne
  refine bind (spec (tryCatch (bind (update there ?_ fun w' done => pure (made w' done)))))
  intro f w' refused
  simp only []
  split
  next permitted =>
    have bestEffort : k.rules.isBestEffort c = true := (Bool.and_eq_true_iff.mp permitted).1
    exact pure (warned _ w' bestEffort refused)
  next => exact throw (broken f w' refused)

/-- Some of the changes are made; all of them unless a fault strikes. -/
theorem applyAll {post : Except Failure (List k.Change × List Warning) → Spec k → Simulator k → Prop}
    {cs : List k.Change} (there : w.hosted.get? s.identifier = some h)
    (broken : ∀ f done w', done.Sublist cs →
      Broken w (w.hosted.insert s.identifier (h.applyAll done)) w.serial w' → post (.error f) s w')
    (partly : ∀ done missed warnings w', Attempted cs done missed warnings → warnings ≠ [] →
      Broken w (w.hosted.insert s.identifier (h.applyAll done)) w.serial w' →
      post (.ok (done, warnings)) s w')
    (made : ∀ w', Made w (w.hosted.insert s.identifier (h.applyAll cs)) w.serial w' →
      post (.ok (cs, [])) s w') :
    ((settings.engine clock k).applyAll cs).Ensures s w post := by
  -- The rest of the changes begins with the host that the first one left, and ends in a condition
  -- that knows of the first one.
  induction cs generalizing w h post with
  | nil =>
    have same : w.hosted.insert s.identifier (h.applyAll []) = w.hosted := Dict.insert_of_get? there
    refine pure (made w ?_)
    rw [same]
    exact .refl w
  | cons c cs inductionHypothesis =>
    unfold Engine.applyAll
    refine bind (applyOne there ?_ ?_ ?_)
    · intro f w' refused
      refine broken f [] w' (List.nil_sublist _) ?_
      rwa [Hosted.applyAll_nil, Dict.insert_of_get? there]
    · intro error w' bestEffort refused
      have there' : w'.hosted.get? s.identifier = some h := by rwa [refused.hosted]
      refine bind (inductionHypothesis there' ?_ ?_ ?_)
      · intro f done w'' part cut
        exact broken f done w'' (part.cons c) (refused.insert_broken cut)
      · intro done missed warnings w'' rest some cut
        exact pure (partly done (c :: missed) _ w'' (.missed bestEffort error rest) (by simp)
          (refused.insert_broken cut))
      · intro w'' done
        exact pure (partly cs [c] _ w'' (.missed bestEffort error (.all cs)) (by simp)
          (refused.insert done))
    · intro w' first
      have there' : w'.hosted.get? s.identifier = some (h.apply c) := by
        rw [first.hosted, Dict.get?_insert_self]
      refine bind (inductionHypothesis there' ?_ ?_ ?_)
      · intro f done w'' part cut
        exact broken f (c :: done) w'' (part.cons_cons c) (first.replace_broken cut)
      · intro done missed warnings w'' rest some cut
        exact pure (partly (c :: done) missed warnings w'' (.made c rest) some
          (first.replace_broken cut))
      · intro w'' done
        exact pure (made w'' (first.replace done))

/-! ## The second reading and the tags -/

theorem refresh {post : Except Failure Unit → Spec k → Simulator k → Prop}
    (there : w.hosted.get? s.identifier = some h)
    (broken : ∀ f w', Broken w w.hosted w.serial w' → post (.error f) s w')
    (made : ∀ w', Made w w.hosted w.serial w' → post (.ok ()) (s.observe h) w') :
    ((settings.engine clock k).refresh).Ensures s w post := by
  unfold Engine.refresh
  refine bind (spec (bind (get (Host.current?_of_get? there) broken fun w' read => ?_)))
  exact modifySpec (made w' read)

theorem untagStale {post : Except Failure TagPlan → Spec k → Simulator k → Prop} {plan : TagPlan}
    (there : w.hosted.get? s.identifier = some h)
    (broken : ∀ f w', Broken w w.hosted w.serial w' → post (.error f) s w')
    (made : ∀ w', Made w
      (w.hosted.insert s.identifier { h with tags := h.tags.eraseAll plan.remove }) w.serial w' →
      post (.ok plan) s w') :
    Run.Ensures (if (!plan.remove.isEmpty) = true then do
        Engine.call .untag ((settings.engine clock k).gateway.untag s.identifier plan.remove)
        Pure.pure plan
      else Pure.pure plan) s w post := by
  split
  next _ => exact bind (untag there broken fun w' removed => pure (made w' removed))
  next nothing =>
    have none : plan.remove = [] := by simpa using nothing
    refine pure (made w ?_)
    rw [none, Dict.eraseAll_nil, Dict.insert_of_get? there]
    exact .refl w

/-- The tags come to the settled ones; a fault may leave them on the way there. -/
theorem reconcileTags {post : Except Failure TagPlan → Spec k → Simulator k → Prop}
    (known : s.identifier ≠ "") (there : w.hosted.get? s.identifier = some h)
    (broken : ∀ f tags w', s.settledTags tags = s.settledTags h.tags →
      Broken w (w.hosted.insert s.identifier { h with tags := tags }) w.serial w' →
      post (.error f) s w')
    (made : ∀ w', Made w
      (w.hosted.insert s.identifier { h with tags := s.settledTags h.tags }) w.serial w' →
      post (.ok (Engine.tagPlan s h.tags)) s w') :
    ((settings.engine clock k).reconcileTags h.tags).Ensures s w post := by
  have result := Spec.result_tagPlan known h.tags
  have upserted := Spec.settledTags_overwrite_upsert s h.tags
  unfold Engine.reconcileTags
  refine bind (spec ?_)
  simp only []
  -- Of the plan only two things matter: where it leads, and that its writes lead there too.
  generalize Engine.tagPlan s h.tags = plan at *
  split
  next _ =>
    refine bind (tag there ?_ fun w' wrote => ?_)
    · intro f w' refused
      refine broken f h.tags w' rfl ?_
      rwa [Dict.insert_of_get? there]
    · have there' : w'.hosted.get? s.identifier =
          some { h with tags := h.tags.overwrite plan.upsert } := by
        rw [wrote.hosted, Dict.get?_insert_self]
      refine untagStale there' ?_ fun w'' removed => made w'' ?_
      · exact fun f w'' refused => broken f _ w'' upserted (wrote.cut refused)
      · rw [← result]
        exact wrote.replace removed
  next nothing =>
    have none : plan.upsert = .empty := by simpa [Dict.isEmpty_iff] using nothing
    refine untagStale there ?_ fun w' removed => ?_
    · intro f w' refused
      refine broken f h.tags w' rfl ?_
      rwa [Dict.insert_of_get? there]
    · refine made w' ?_
      rw [← result, TagPlan.result, none, Dict.overwrite_empty]
      exact removed

end Run.Ensures

end DesiredState
